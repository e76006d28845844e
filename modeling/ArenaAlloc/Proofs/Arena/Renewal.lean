import ArenaAlloc.Proofs.Arena.Contents
import ArenaAlloc.Proofs.Arena.Twin

/-! Arenas after a reset or a teardown. As long as no request fails they place blocks, refuse
handles and keep count as new arenas do: what came before shows in the generations only. -/
namespace ArenaAlloc

/-- The block without its generation. -/
def Block.undated (b : Block) : Block := { b with generation := 0 }

namespace Arena

/-- An arena and the handles it gave out, by whose numbers operations go. -/
structure Replay where
  arena : Arena
  handles : List Block := []

/-- What shows of an operation, generations aside. -/
structure Sight where
  /-- None if the operation goes by a number that no handle has. -/
  answer : Option (Except Fault (Option Block))
  used : Nat
  spans : List Span
  liveBlocks : Nat
  alignment : Alignment

namespace Replay

def reply? (k : Kernel) (r : Replay) (op : Op Nat) :
    Option (Reply Arena (Except Fault (Option Block))) :=
  (op.resolve (r.handles[·]?)).map (r.arena.step k)

/-- The handles after an answer. -/
def gain (hs : List Block) : Except Fault (Option Block) → List Block
  | .ok (some b) => hs ++ [b]
  | _ => hs

def step (k : Kernel) (r : Replay) (op : Op Nat) : Replay :=
  match r.reply? k op with
  | none => r
  | some s => ⟨s.state, gain r.handles s.result⟩

def run (r : Replay) (ops : List (Kernel × Op Nat)) : Replay :=
  ops.foldl (fun r o => r.step o.1 o.2) r

def sight (k : Kernel) (r : Replay) (op : Op Nat) : Sight where
  answer := (r.reply? k op).map fun s => s.result.map (Option.map Block.undated)
  used := (r.step k op).arena.used
  spans := (r.step k op).arena.freeList.spans
  liveBlocks := (r.step k op).arena.live.size
  alignment := (r.step k op).arena.alignment

/-- What shows of a run, operation by operation. -/
def watch : Replay → List (Kernel × Op Nat) → List Sight
  | _, [] => []
  | r, o :: ops => r.sight o.1 o.2 :: (r.step o.1 o.2).watch ops

/-- A request for a block does not fail. -/
def Serves (k : Kernel) (r : Replay) (op : Op Nat) : Prop :=
  op.allocates = true → ∃ b, (r.reply? k op).map Reply.result = some (.ok (some b))

def ServesAll : Replay → List (Kernel × Op Nat) → Prop
  | _, [] => True
  | r, o :: ops => r.Serves o.1 o.2 ∧ (r.step o.1 o.2).ServesAll ops

/-- Two replays in step: the first began `d` issues late, and all handles of the second come from
its run. -/
structure Paired (d : UInt64) (c₀ : Arena) (r q : Replay) : Prop where
  twin : Twin d r.arena q.arena
  handles : r.handles = q.handles.map (Block.later d)
  sound : r.arena.Sound
  origin : ∃ past, q.arena = c₀.run past ∧ q.handles = issued (c₀.history past)

variable {k k' : Kernel} {c₀ : Arena} {r q : Replay} {d : UInt64} {op : Op Nat} {op' : Op Block}
  {hs : List Block} {b : Block}

theorem serves_free {i : Nat} : r.Serves k (.free i) := by
  intro h
  contradiction

theorem resolve_later (op : Op Nat) (hs : List Block) (d : UInt64) :
    op.resolve ((hs.map (Block.later d))[·]?) = (op.resolve (hs[·]?)).map (Op.later d) := by
  cases op with
  | free i | write i =>
    simp only [Op.resolve, List.getElem?_map, Option.map_map]
    rfl
  | alloc | allocAligned | allocValue | direct | reset | teardown => rfl

theorem resolve_eq_some (h : op.resolve (hs[·]?) = some op') :
    op'.allocates = op.allocates ∧ (op' = .teardown → op = .teardown) ∧
      ∀ b, op' = .free b → b ∈ hs := by
  cases op with
  | free i =>
    obtain ⟨b, hb, rfl⟩ := Option.map_eq_some_iff.mp h
    refine ⟨rfl, by simp, ?_⟩
    rintro c ⟨⟩
    exact List.mem_of_getElem? hb
  | write i start data =>
    obtain ⟨b, hb, rfl⟩ := Option.map_eq_some_iff.mp h
    exact ⟨rfl, by simp, by simp⟩
  | alloc | allocAligned | allocValue | direct | reset | teardown =>
    obtain rfl := Option.some.inj h
    exact ⟨rfl, by simp, by simp⟩

theorem gain_eq (a : Arena) (k : Kernel) (op : Op Block) (hs : List Block) :
    gain hs (a.step k op).result = hs ++ issued (a.effects k op) := by
  rw [effects]
  cases op with
  | alloc | allocAligned | allocValue =>
    generalize (a.step k _).result = x
    rcases x with f | _ | b
    · exact (List.append_nil hs).symm
    · exact (List.append_nil hs).symm
    · rfl
  | free b =>
    simp only [Arena.step, Reply.map]
    cases (a.free b).result <;> exact (List.append_nil hs).symm
  | write b start data =>
    simp only [Arena.step]
    cases a.write b start data <;> exact (List.append_nil hs).symm
  | direct | reset => exact (List.append_nil hs).symm
  | teardown =>
    cases hm : a.mapping <;> exact (List.append_nil hs).symm

theorem gain_later (hs : List Block) (x : Except Fault (Option Block)) :
    gain (hs.map (Block.later d)) (x.map (Option.map (Block.later d))) =
      (gain hs x).map (Block.later d) := by
  rcases x with f | _ | b <;> simp [gain, Except.map]

namespace Paired

theorem sound_origin (hc : c₀.Created) (h : Paired d c₀ r q) : q.arena.Sound := by
  obtain ⟨past, harena, -⟩ := h.origin
  exact harena ▸ sound_run hc.sound past

/-- Handles carry the numbers in which they were given out. -/
theorem early (hc : c₀.Created) (h : Paired d c₀ r q)
    (hn : d.toNat + q.handles.length ≤ Word.limit) (hb : b ∈ q.handles) : b.Early d := by
  obtain ⟨past, -, hhandles⟩ := h.origin
  obtain ⟨n, hlt, hget⟩ := List.mem_iff_getElem.mp hb
  have hnumber : b.generation = UInt64.ofNat n := by
    apply (numbered_run hc past).past n b
    rw [← hhandles, ← hget]
    exact List.getElem?_eq_getElem hlt
  have hword : n < 2 ^ 64 := by
    have hlimit : Word.limit = 2 ^ 64 := rfl
    omega
  rw [Block.Early, hnumber, UInt64.toNat_ofNat', Nat.mod_eq_of_lt hword]
  omega

theorem live_handles (hc : c₀.Created) (h : Paired d c₀ r q) (hb : b ∈ q.arena.live.blocks) :
    b ∈ q.handles := by
  obtain ⟨past, harena, hhandles⟩ := h.origin
  rw [harena] at hb
  obtain ⟨pre, post, hhistory, -⟩ := (mem_live_iff_alive hc past).mp hb
  rw [hhandles, mem_issued, hhistory]
  simp

/-- Figures do not tell the two apart. -/
theorem sight_eq (h : Paired d c₀ (r.step k op) (q.step k' op))
    (hanswer : (r.sight k op).answer = (q.sight k' op).answer) : r.sight k op = q.sight k' op := by
  have hsize : (r.step k op).arena.live.size = (q.step k' op).arena.live.size := by
    rw [h.twin.live]
    exact LiveTable.size_later _
  simp only [sight] at hanswer ⊢
  rw [hanswer, h.twin.used, h.twin.spans, hsize, h.twin.alignment]

/-- An operation goes by handles of one block in both replays, or by a number that has none. -/
theorem replies (hc : c₀.Created) (h : Paired d c₀ r q)
    (hn : d.toNat + q.handles.length ≤ Word.limit) (ht : op ≠ .teardown) (hr : r.Serves k op)
    (hq : q.Serves k' op) :
    r.reply? k op = none ∧ q.reply? k' op = none ∨
    ∃ op', r.reply? k op = some (r.arena.step k (op'.later d)) ∧
      q.reply? k' op = some (q.arena.step k' op') ∧
      Agrees d (r.arena.step k (op'.later d)) (q.arena.step k' op') := by
  have hresolve : op.resolve (r.handles[·]?) = (op.resolve (q.handles[·]?)).map (Op.later d) := by
    rw [h.handles]
    exact resolve_later op q.handles d
  cases hop : op.resolve (q.handles[·]?) with
  | none =>
    rw [hop] at hresolve
    simp [reply?, hop, hresolve]
  | some op' =>
    rw [hop] at hresolve
    have hreply : r.reply? k op = some (r.arena.step k (op'.later d)) := by
      simp only [reply?, hresolve, Option.map_some]
    have hreply' : q.reply? k' op = some (q.arena.step k' op') := by
      simp only [reply?, hop, Option.map_some]
    simp only [Serves, hreply, hreply', Option.map_some, Option.some.injEq] at hr hq
    obtain ⟨hallocates, hteardown, hfree⟩ := resolve_eq_some hop
    refine Or.inr ⟨op', hreply, hreply', ?_⟩
    apply h.twin.agrees_step h.sound (h.sound_origin hc)
    · exact fun htear => ht (hteardown htear)
    · intro b hb
      exact h.early hc hn (hfree b hb)
    · intro l hl
      exact h.early hc hn (h.live_handles hc hl)
    · exact fun ha => hr (hallocates ▸ ha)
    · exact fun ha => hq (hallocates ▸ ha)

theorem answered (h : Paired d c₀ r q)
    (hagrees : Agrees d (r.arena.step k (op'.later d)) (q.arena.step k' op')) :
    Paired d c₀
      ⟨(r.arena.step k (op'.later d)).state,
        gain r.handles (r.arena.step k (op'.later d)).result⟩
      ⟨(q.arena.step k' op').state, gain q.handles (q.arena.step k' op').result⟩ := by
  obtain ⟨past, harena, hhandles⟩ := h.origin
  refine ⟨hagrees.state, ?_, sound_step h.sound k _, past ++ [(k', op')], ?_, ?_⟩
  · rw [h.handles, hagrees.result]
    exact gain_later _ _
  · rw [run_append, ← harena]
    rfl
  · rw [gain_eq, history_append, issued_append, ← harena, ← hhandles, history, history,
      List.append_nil]

theorem step (hc : c₀.Created) (h : Paired d c₀ r q)
    (hn : d.toNat + q.handles.length ≤ Word.limit) (ht : op ≠ .teardown) (hr : r.Serves k op)
    (hq : q.Serves k' op) :
    r.sight k op = q.sight k' op ∧ Paired d c₀ (r.step k op) (q.step k' op) := by
  rcases h.replies hc hn ht hr hq with ⟨hreply, hreply'⟩ | ⟨op', hreply, hreply', hagrees⟩
  · have hpaired : Paired d c₀ (r.step k op) (q.step k' op) := by
      simp only [Replay.step, hreply, hreply']
      exact h
    refine ⟨hpaired.sight_eq ?_, hpaired⟩
    simp only [sight, hreply, hreply']
  · have hpaired : Paired d c₀ (r.step k op) (q.step k' op) := by
      simp only [Replay.step, hreply, hreply']
      exact h.answered hagrees
    refine ⟨hpaired.sight_eq ?_, hpaired⟩
    simp only [sight, hreply, hreply', Option.map_some, hagrees.result]
    rcases (q.arena.step k' op').result with f | _ | b <;> rfl

end Paired

/-- Only a request for a block can add a handle. -/
theorem length_step_le (k : Kernel) (q : Replay) (op : Op Nat) :
    (q.step k op).handles.length ≤ q.handles.length + if op.allocates then 1 else 0 := by
  cases hop : op.resolve (q.handles[·]?) with
  | none =>
    simp only [step, reply?, hop, Option.map_none]
    exact Nat.le_add_right _ _
  | some op' =>
    simp only [step, reply?, hop, Option.map_some]
    have hgain := gain_eq q.arena k op' q.handles
    rcases hx : (q.arena.step k op').result with f | _ | b
    · exact Nat.le_add_right _ _
    · exact Nat.le_add_right _ _
    · rw [hx] at hgain
      have hone : [b] = issued (q.arena.effects k op') := List.append_cancel_left hgain
      have hissued : .issued b ∈ q.arena.effects k op' :=
        mem_issued.mp (hone ▸ List.mem_singleton_self b)
      have hallocates : op.allocates = true :=
        (resolve_eq_some hop).1 ▸ allocates_of_issued hissued
      rw [if_pos hallocates, gain, List.length_append]
      exact Nat.le_refl _

theorem watch_eq {ops ops' : List (Kernel × Op Nat)} (hc : c₀.Created) (h : Paired d c₀ r q)
    (hsame : ops.map Prod.snd = ops'.map Prod.snd) (ht : ∀ o ∈ ops, o.2 ≠ .teardown)
    (hn : d.toNat + q.handles.length + ops.countP (·.2.allocates) ≤ Word.limit)
    (hr : r.ServesAll ops) (hq : q.ServesAll ops') :
    r.watch ops = q.watch ops' ∧ Paired d c₀ (r.run ops) (q.run ops') := by
  induction ops generalizing r q ops' with
  | nil =>
    obtain rfl := List.map_eq_nil_iff.mp hsame.symm
    exact ⟨rfl, h⟩
  | cons o ops ih =>
    cases ops' with
    | nil => contradiction
    | cons o' ops' =>
      obtain ⟨k, op⟩ := o
      obtain ⟨k', op'⟩ := o'
      obtain ⟨rfl, hrest⟩ : op = op' ∧ ops.map Prod.snd = ops'.map Prod.snd := by
        simpa using hsame
      rw [List.countP_cons] at hn
      have hlength := length_step_le k' q op
      dsimp only at hn hlength
      obtain ⟨hsight, hpaired⟩ :=
        h.step hc (by omega) (ht _ List.mem_cons_self) hr.1 hq.1
      obtain ⟨hwatch, hend⟩ := ih hpaired hrest (fun o ho => ht o (List.mem_cons_of_mem _ ho))
        (by dsimp only; omega) hr.2 hq.2
      refine ⟨?_, hend⟩
      rw [watch, watch, hsight, hwatch]

end Replay

/-- Right after a reset or a teardown, `n` issues after the creation. -/
def Cleared (n : Nat) (a : Arena) : Prop :=
  ∃ (a₀ : Arena) (past : List (Kernel × Op Block)) (k : Kernel) (op : Op Block), a₀.Created ∧
    (op = .reset ∨ op = .teardown) ∧ (issued (a₀.history past)).length = n ∧
      a = ((a₀.run past).step k op).state

variable {a c₀ : Arena} {n : Nat}

/-- Nothing is left but the count of issues. A second teardown finds nothing to forget. -/
theorem Cleared.forgotten (h : Cleared n a) :
    a.Sound ∧ a.used = 0 ∧ a.freeList.spans = [] ∧ a.live = {} ∧
      a.nextGeneration = UInt64.ofNat n := by
  obtain ⟨a₀, past, k, op, hc, hop, rfl, rfl⟩ := h
  have hs := sound_run hc.sound past
  have hnext := (numbered_run hc past).next
  refine ⟨sound_step hs k op, ?_⟩
  rcases hop with rfl | rfl
  · exact ⟨rfl, rfl, rfl, hnext⟩
  · cases hm : (a₀.run past).mapping with
    | none =>
      obtain ⟨hused, hlive, hspans⟩ := hs.empty_of_unmapped hm
      simp only [step, Reply.map, teardown, hm]
      exact ⟨hused, hspans, congrArg LiveTable.mk hlive, hnext⟩
    | some m =>
      simp only [step, Reply.map, teardown, hm, true_and]
      exact ⟨rfl, hnext⟩

/-- Directives reach every alignment state, and leave no trace elsewhere. -/
theorem run_direct (c : Arena) (m : Alignment) :
    ∃ ops, c.run ops = { c with alignment := m } ∧ c.history ops = [] := by
  cases m with
  | unaligned => exact ⟨[(⟨0, false⟩, .direct .off)], rfl, rfl⟩
  | next => exact ⟨[(⟨0, false⟩, .direct .next)], rfl, rfl⟩
  | always => exact ⟨[(⟨0, false⟩, .direct .always)], rfl, rfl⟩

theorem paired_of_cleared (ha : Cleared n a) (hc : c₀.Created) :
    Replay.Paired (UInt64.ofNat n) c₀ { arena := a }
      { arena := { c₀ with alignment := a.alignment } } := by
  obtain ⟨hs, hused, hspans, hlive, hnext⟩ := ha.forgotten
  obtain ⟨past, hrun, hhistory⟩ := run_direct c₀ a.alignment
  obtain ⟨k, m, settings, -, rfl⟩ := hc.eq
  refine ⟨⟨hused, hspans, hlive, rfl, ?_⟩, rfl, hs, past, hrun.symm, ?_⟩
  · rw [hnext]
    exact (UInt64.zero_add _).symm
  · rw [hhistory]
    rfl

/-- After a reset or a teardown, an arena does whatever a new one does in the same alignment state,
be it under other settings and on a system that decides otherwise. All generations are off by the
number of blocks issued before. -/
theorem cleared_like_new {ops ops' : List (Kernel × Op Nat)} (ha : Cleared n a) (hc : c₀.Created)
    (hsame : ops.map Prod.snd = ops'.map Prod.snd) (ht : ∀ o ∈ ops, o.2 ≠ .teardown)
    (hn : n + ops.countP (·.2.allocates) < Word.limit)
    (hr : Replay.ServesAll { arena := a } ops)
    (hq : Replay.ServesAll { arena := { c₀ with alignment := a.alignment } } ops') :
    Replay.watch { arena := a } ops =
      Replay.watch { arena := { c₀ with alignment := a.alignment } } ops' ∧
    (Replay.run { arena := a } ops).handles =
      (Replay.run { arena := { c₀ with alignment := a.alignment } } ops').handles.map
        (Block.later (UInt64.ofNat n)) := by
  have hword : (UInt64.ofNat n).toNat = n := by
    rw [UInt64.toNat_ofNat']
    exact Nat.mod_eq_of_lt (Nat.lt_of_le_of_lt (Nat.le_add_right _ _) hn)
  have hbound : (UInt64.ofNat n).toNat + ([] : List Block).length +
      ops.countP (·.2.allocates) ≤ Word.limit := by
    rw [hword]
    exact Nat.le_of_lt hn
  obtain ⟨hwatch, hpaired⟩ :=
    Replay.watch_eq hc (paired_of_cleared ha hc) hsame ht hbound hr hq
  exact ⟨hwatch, hpaired.handles⟩

/-- Three blocks, the last of which does not fit the first storage, and a pending alignment. -/
def wear : List (Kernel × Op Block) :=
  granted [.alloc 3, .alloc 8, .alloc 9000, .free ⟨0, 3, 0, 0⟩, .direct .next]

/-- A released block makes room for a smaller one, and both are released once too often. -/
def again (k : Kernel) : List (Kernel × Op Nat) :=
  [.alloc 20, .alloc 5, .free 0, .alloc 12, .free 0, .free 2, .free 2, .alloc 5000].map (k, ·)

theorem worn_like_new :
    Replay.watch { arena := (blank.run wear).reset.state } (again ⟨1, true⟩) =
      Replay.watch { arena := { blank with alignment := .next } } (again ⟨7, false⟩) ∧
    Replay.watch { arena := (blank.run wear).teardown.state } (again ⟨1, true⟩) =
      Replay.watch { arena := blank } (again ⟨7, false⟩) ∧
    (Replay.run { arena := (blank.run wear).reset.state } (again ⟨1, true⟩)).handles =
      [⟨0, 20, 0, 3⟩, ⟨20, 5, 0, 4⟩, ⟨0, 12, 0, 5⟩, ⟨25, 5000, 0, 6⟩] ∧
    (Replay.watch { arena := blank } (again ⟨7, false⟩)).map Sight.answer =
      [some (.ok (some ⟨0, 20, 0, 0⟩)), some (.ok (some ⟨20, 5, 0, 0⟩)), some (.ok none),
        some (.ok (some ⟨0, 12, 0, 0⟩)), some (.error (.doubleFree 0)), some (.ok none),
        some (.error (.doubleFree 0)), some (.ok (some ⟨25, 5000, 0, 0⟩))] := by
  have hreset : Cleared 3 (blank.run wear).reset.state :=
    ⟨blank, wear, ⟨1, true⟩, .reset, created_blank, Or.inl rfl, rfl, rfl⟩
  have hteardown : Cleared 3 (blank.run wear).teardown.state :=
    ⟨blank, wear, ⟨1, true⟩, .teardown, created_blank, Or.inr rfl, rfl, rfl⟩
  have hsame : (again ⟨1, true⟩).map Prod.snd = (again ⟨7, false⟩).map Prod.snd := rfl
  have hstay : ∀ o ∈ again ⟨1, true⟩, o.2 ≠ .teardown := by simp [again]
  have hword : 3 + (again ⟨1, true⟩).countP (·.2.allocates) < Word.limit := by decide
  have hkept : Replay.ServesAll { arena := (blank.run wear).reset.state } (again ⟨1, true⟩) :=
    ⟨fun _ => ⟨_, rfl⟩, fun _ => ⟨_, rfl⟩, Replay.serves_free, fun _ => ⟨_, rfl⟩,
      Replay.serves_free, Replay.serves_free, Replay.serves_free, fun _ => ⟨_, rfl⟩, trivial⟩
  have hremapped : Replay.ServesAll { arena := (blank.run wear).teardown.state }
      (again ⟨1, true⟩) :=
    ⟨fun _ => ⟨_, rfl⟩, fun _ => ⟨_, rfl⟩, Replay.serves_free, fun _ => ⟨_, rfl⟩,
      Replay.serves_free, Replay.serves_free, Replay.serves_free, fun _ => ⟨_, rfl⟩, trivial⟩
  have hnew : ∀ m, Replay.ServesAll { arena := { blank with alignment := m } }
      (again ⟨7, false⟩) := by
    intro m
    cases m <;> exact ⟨fun _ => ⟨_, rfl⟩, fun _ => ⟨_, rfl⟩, Replay.serves_free,
      fun _ => ⟨_, rfl⟩, Replay.serves_free, Replay.serves_free, Replay.serves_free,
      fun _ => ⟨_, rfl⟩, trivial⟩
  obtain ⟨hwatch, -⟩ :=
    cleared_like_new hreset created_blank hsame hstay hword hkept (hnew _)
  obtain ⟨hwatch', -⟩ :=
    cleared_like_new hteardown created_blank hsame hstay hword hremapped (hnew _)
  exact ⟨hwatch, hwatch', rfl, rfl⟩

end Arena

end ArenaAlloc
