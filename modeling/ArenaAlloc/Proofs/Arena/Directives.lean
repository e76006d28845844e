import ArenaAlloc.Proofs.Arena.Liveness
import ArenaAlloc.Proofs.Arena.Request

/-! Which blocks are aligned. What a directive asks for holds from then on until one of a few
operations ends it, and an aligned block stays so wherever storage moves. -/
namespace ArenaAlloc

/-- The block starts on a multiple of eight, with no more padding than that takes. -/
structure Block.Aligned (b : Block) : Prop where
  offset : 8 ∣ b.offset
  padding : b.padding < 8
  least : ∀ p, 8 ∣ b.extent.offset + p → b.padding ≤ p

/-- The block is aligned as the state just before its request has it. -/
structure Block.Obeys (b : Block) (m : Alignment) : Prop where
  next : m = .next → b.Aligned
  always : m = .always → b.Aligned
  unaligned : m = .unaligned → b.padding = 0

namespace Arena

/-- The operations that change the alignment state, with the state that each of them leaves. -/
inductive Shifts (a : Arena) : Op Block → Alignment → Prop
  | spent {n : Nat} : a.alignment = .next → 0 < n → Shifts a (.alloc n) .unaligned
  | spentByValue {l : Layout} {v : List Int} : a.alignment = .next → 0 < l.size →
      Shifts a (.allocValue l v) .unaligned
  | next : a.alignment ≠ .next → Shifts a (.direct .next) .next
  | always : a.alignment ≠ .always → Shifts a (.direct .always) .always
  | off : a.alignment ≠ .unaligned → Shifts a (.direct .off) .unaligned
  | persistentOff : a.alignment = .always → Shifts a (.direct .persistentOff) .unaligned
  | tornDown : a.alignment ≠ .unaligned → a.mapping ≠ none → Shifts a .teardown .unaligned

/-- No operation of the run changes the alignment state. -/
def Steady (a : Arena) : List (Kernel × Op Block) → Prop
  | [] => True
  | o :: ops => (∀ m, ¬ Shifts a o.2 m) ∧ (a.step o.1 o.2).state.Steady ops

variable {k : Kernel} {a c : Arena} {b : Block} {op : Op Block} {ops : List (Kernel × Op Block)}
  {m : Alignment} {n p : Nat}

theorem Supplies.aligned (h : Supplies k a n true b c) : b.Aligned := by
  obtain ⟨-, hle, hpadding⟩ := h.padding
  have hoffset : b.offset = b.extent.offset + b.padding := (Nat.sub_add_cancel hle).symm
  simp only [Alignment.gap, if_true] at hpadding
  constructor <;> omega

theorem Supplies.obeys (h : Supplies k a n (m ≠ .unaligned) b c) : b.Obeys m := by
  constructor
  · rintro rfl
    exact h.aligned
  · rintro rfl
    exact h.aligned
  · rintro rfl
    exact h.padding.2.2

theorem alignment_place {aligned : Bool} (hn : 0 < n) :
    (a.place k n (Alignment.boundary aligned)).state.alignment = a.alignment := by
  cases hr : (a.place k n (Alignment.boundary aligned)).result with
  | error f => rw [place_state_of_error hn hr]
  | ok b =>
    rcases place_eq_ok hn hr with ⟨f, -, -, hstate⟩ | ⟨-, -, m, -, hstate⟩ <;> rw [hstate] <;> rfl

/-- A request of some size spends a pending alignment whether it is met or not. -/
theorem alignment_alloc (hn : 0 < n) : (a.alloc k n).state.alignment = a.alignment.spend := by
  simp only [alloc, if_neg (Nat.ne_of_gt hn)]
  exact alignment_place hn

theorem alignment_allocAligned : (a.allocAligned k n).state.alignment = a.alignment := by
  by_cases hn : n = 0
  · simp [allocAligned, hn, Reply.fail]
  · simp only [allocAligned, if_neg hn]
    exact alignment_place (Nat.pos_of_ne_zero hn)

theorem alignment_allocValue {l : Layout} {v : List Int} :
    (a.allocValue k l v).state.alignment = (a.alloc k l.size).state.alignment := by
  simp only [allocValue]
  split
  · rfl
  split
  · rfl
  · rename_i hwrite
    obtain ⟨m, rfl, -⟩ := write_eq_ok hwrite
    rfl

theorem alignment_free : (a.free b).state.alignment = a.alignment := by
  simp only [free]
  split
  · simp only [release]
    split <;> rfl
  · rfl

theorem spend_of_ne_next (h : m ≠ .next) : m.spend = m := by
  cases m with
  | next => contradiction
  | unaligned | always => rfl

theorem alignment_of_shifts (h : Shifts a op m) : (a.step k op).state.alignment = m := by
  cases h with
  | spent hm hn =>
    refine (alignment_alloc hn).trans ?_
    rw [hm]
    rfl
  | spentByValue hm hn =>
    refine alignment_allocValue.trans ((alignment_alloc hn).trans ?_)
    rw [hm]
    rfl
  | next | always | off => rfl
  | persistentOff hm =>
    change a.alignment.after .persistentOff = _
    rw [hm]
    rfl
  | tornDown _ hm =>
    obtain ⟨r, hr⟩ := Option.ne_none_iff_exists'.mp hm
    simp [step, Reply.map, teardown, hr]

theorem alignment_of_not_shifts (h : ∀ m, ¬ Shifts a op m) :
    (a.step k op).state.alignment = a.alignment := by
  have halloc : ∀ {n}, (0 < n → a.alignment ≠ .next) →
      (a.alloc k n).state.alignment = a.alignment := by
    intro n hne
    rcases Nat.eq_zero_or_pos n with rfl | hn
    · rfl
    · rw [alignment_alloc hn, spend_of_ne_next (hne hn)]
  cases op with
  | alloc n => exact halloc fun hn hm => h _ (.spent hm hn)
  | allocAligned n => exact alignment_allocAligned
  | allocValue l v =>
    exact alignment_allocValue.trans (halloc fun hn hm => h _ (.spentByValue hm hn))
  | free b => exact alignment_free
  | write b start data =>
    simp only [step]
    split
    · rename_i hwrite
      obtain ⟨m, rfl, -⟩ := write_eq_ok hwrite
      rfl
    · rfl
  | reset => rfl
  | direct d =>
    change a.alignment.after d = a.alignment
    by_contra hne
    cases d with
    | next => exact h _ (.next (Ne.symm hne))
    | always => exact h _ (.always (Ne.symm hne))
    | off => exact h _ (.off (Ne.symm hne))
    | persistentOff =>
      cases hm : a.alignment with
      | always => exact h _ (.persistentOff hm)
      | unaligned | next => simp [hm, Alignment.after] at hne
  | teardown =>
    change a.teardown.state.alignment = a.alignment
    by_contra hne
    cases hm : a.mapping with
    | none => simp [teardown, hm] at hne
    | some r =>
      have hset : a.alignment ≠ .unaligned := by
        rintro hset
        simp [teardown, hm, hset] at hne
      exact h _ (.tornDown hset (by simp [hm]))

theorem alignment_step_iff :
    (a.step k op).state.alignment = m ↔
      Shifts a op m ∨ m = a.alignment ∧ ∀ m', ¬ Shifts a op m' := by
  constructor
  · rintro rfl
    by_cases h : ∃ m', Shifts a op m'
    · obtain ⟨m', hm'⟩ := h
      left
      rw [alignment_of_shifts hm']
      exact hm'
    · have hnone : ∀ m', ¬ Shifts a op m' := fun m' hm' => h ⟨m', hm'⟩
      exact Or.inr ⟨alignment_of_not_shifts hnone, hnone⟩
  · rintro (hm | ⟨rfl, hnone⟩)
    · exact alignment_of_shifts hm
    · exact alignment_of_not_shifts hnone

theorem alignment_run (h : a.Steady ops) : (a.run ops).alignment = a.alignment := by
  induction ops generalizing a with
  | nil => rfl
  | cons o ops ih =>
    obtain ⟨hnone, hrest⟩ := h
    exact (ih hrest).trans (alignment_of_not_shifts hnone)

/-- Storage starts on whole pages, which are multiples of eight. -/
theorem dvd_address (hb : 8 ∣ b.offset) (h : a.address b = .ok p) : 8 ∣ p := by
  obtain ⟨m, -, rfl⟩ := Mapping.map_eq_ok h
  have hpage : 8 ∣ m.base := Nat.dvd_mul_left_of_dvd (by decide) m.page
  exact Nat.dvd_add hpage hb

theorem aligned_address (hs : a.Sound) (hb : b ∈ a.live.blocks) (h : 8 ∣ b.offset) :
    ∃ p, a.address b = .ok p ∧ 8 ∣ p := by
  obtain ⟨p, hp⟩ := (accepts_of_mem hs hb).address
  exact ⟨p, hp, dvd_address h hp⟩

theorem obeys_step (h : (a.step k op).result = .ok (some b)) :
    op = .allocAligned b.len ∧ b.Aligned ∨ op = .alloc b.len ∧ b.Obeys a.alignment ∨
      ∃ l v, op = .allocValue l v ∧ b.len = l.size ∧ b.Obeys a.alignment := by
  obtain ⟨n, aligned, hreq, -, hsup⟩ := supplies_step h
  have hlen := hsup.padding.1
  cases op with
  | alloc n =>
    cases hreq
    exact Or.inr (Or.inl ⟨by rw [hlen], hsup.obeys⟩)
  | allocAligned n =>
    cases hreq
    exact Or.inl ⟨by rw [hlen], hsup.aligned⟩
  | allocValue l v =>
    cases hreq
    exact Or.inr (Or.inr ⟨l, v, rfl, hlen, hsup.obeys⟩)
  | free | write | direct | reset | teardown => cases hreq

/-- While the state asks for it, there is no way to a block that is not aligned. -/
theorem aligned_step (hm : a.alignment ≠ .unaligned) (h : (a.step k op).result = .ok (some b)) :
    b.Aligned := by
  have hobeys : b.Obeys a.alignment → b.Aligned := by
    intro hb
    cases hstate : a.alignment with
    | unaligned => exact (hm hstate).elim
    | next => exact hb.next hstate
    | always => exact hb.always hstate
  rcases obeys_step h with ⟨-, hb⟩ | ⟨-, hb⟩ | ⟨l, v, -, -, hb⟩
  · exact hb
  · exact hobeys hb
  · exact hobeys hb

/-- A block is aligned just when it is requested so, by the operation or by the state that holds at
that moment. Only the operations of a short list change that state: a pending alignment lasts to the
first request of some size or is called off, a lasting one aligns every block until then. Wherever
storage moves, the address of an aligned block remains aligned while it is live. -/
theorem alignment_governed (h : a.Reachable) :
    (∀ k op b, (a.step k op).result = .ok (some b) →
      op = .allocAligned b.len ∧ b.Aligned ∨ op = .alloc b.len ∧ b.Obeys a.alignment ∨
        ∃ l v, op = .allocValue l v ∧ b.len = l.size ∧ b.Obeys a.alignment) ∧
    (∀ k op m, (a.step k op).state.alignment = m ↔
      Shifts a op m ∨ m = a.alignment ∧ ∀ m', ¬ Shifts a op m') ∧
    (∀ ops, (a.direct .next).Steady ops →
      ((a.direct .next).run ops).alignment = .next ∧
      ∀ k op b, (((a.direct .next).run ops).step k op).result = .ok (some b) → b.Aligned) ∧
    (∀ ops, (a.direct .always).Steady ops →
      ((a.direct .always).run ops).alignment = .always ∧
      ∀ k op b, (((a.direct .always).run ops).step k op).result = .ok (some b) → b.Aligned) ∧
    ∀ k op b, (a.step k op).result = .ok (some b) → b.Aligned →
      ∀ ops, b ∈ ((a.step k op).state.run ops).live.blocks →
        ∃ p, ((a.step k op).state.run ops).address b = .ok p ∧ 8 ∣ p := by
  refine ⟨?_, ?_, ?_, ?_, ?_⟩
  · intro k op b hb
    exact obeys_step hb
  · intro k op m
    exact alignment_step_iff
  · intro ops hsteady
    have hnext : ((a.direct .next).run ops).alignment = .next := alignment_run hsteady
    exact ⟨hnext, fun k op b => aligned_step (by simp [hnext])⟩
  · intro ops hsteady
    have halways : ((a.direct .always).run ops).alignment = .always := alignment_run hsteady
    exact ⟨halways, fun k op b => aligned_step (by simp [halways])⟩
  · intro k op b _ hb ops hlive
    have hs := ((h.step k op).run ops).sound
    exact aligned_address hs hlive hb.offset

/-- Three bytes are in use, so that the next block is not aligned by chance. -/
def ajar : Arena := blank.run (granted [.alloc 3])

/-- Operations that a pending alignment outlasts. -/
def patient : List (Kernel × Op Block) :=
  granted [.allocAligned 2, .alloc 0, .direct .persistentOff, .free ⟨0, 3, 0, 0⟩, .reset, .alloc 0]

theorem ajar_governed :
    ((ajar.direct .next).run patient).alignment = .next ∧
    (((ajar.direct .next).run patient).step ⟨0, false⟩ (.alloc 5000)).state.alignment =
      .unaligned ∧
    ((ajar.direct .next).step ⟨1, true⟩ (.alloc 5)).result = .ok (some ⟨8, 5, 5, 1⟩) ∧
    (⟨8, 5, 5, 1⟩ : Block).Aligned ∧
    ((ajar.direct .always).step ⟨1, true⟩ (.allocValue (.scalar false .w16) [7])).result =
      .ok (some ⟨8, 2, 5, 1⟩) ∧
    (⟨8, 2, 5, 1⟩ : Block).Aligned ∧
    (ajar.step ⟨1, true⟩ (.alloc 5)).result = .ok (some ⟨3, 5, 0, 1⟩) ∧
    (⟨3, 5, 0, 1⟩ : Block).padding = 0 ∧
    ∃ p, (((ajar.step ⟨1, true⟩ (.allocAligned 5)).state.run
      [(⟨7, false⟩, .alloc 9000)]).address ⟨8, 5, 5, 1⟩) = .ok p ∧ 8 ∣ p := by
  have h : ajar.Reachable := ⟨blank, _, created_blank, rfl⟩
  have hwaiting : ((ajar.direct .next).run patient).Reachable :=
    ⟨blank, granted [.alloc 3, .direct .next] ++ patient, created_blank, rfl⟩
  have hsteady : (ajar.direct .next).Steady patient := by
    refine ⟨?_, ?_, ?_, ?_, ?_, ?_, trivial⟩
    · intro m hm
      cases hm
    · intro m hm
      cases hm with
      | spent _ hn => exact absurd hn (by decide)
    · intro m hm
      cases hm with
      | persistentOff hm => exact absurd hm (by decide)
    · intro m hm
      cases hm
    · intro m hm
      cases hm
    · intro m hm
      cases hm with
      | spent _ hn => exact absurd hn (by decide)
  obtain ⟨hplain, -, hnext, halways, haddress⟩ := alignment_governed h
  have hpending := (hnext patient hsteady).1
  obtain ⟨-, hshift, -⟩ := alignment_governed hwaiting
  have haligned : (⟨8, 5, 5, 1⟩ : Block).Aligned :=
    (hnext [] trivial).2 ⟨1, true⟩ (.alloc 5) _ rfl
  refine ⟨hpending, (hshift _ _ _).mpr (Or.inl (.spent hpending (by decide))), rfl, haligned, rfl,
    ?_, rfl, ?_, ?_⟩
  · exact (halways [] trivial).2 ⟨1, true⟩ (.allocValue (.scalar false .w16) [7]) _ rfl
  · rcases hplain ⟨1, true⟩ (.alloc 5) ⟨3, 5, 0, 1⟩ rfl with ⟨hop, -⟩ | ⟨-, hb⟩ | ⟨l, v, hop, -⟩
    · cases hop
    · exact hb.unaligned rfl
    · cases hop
  · exact haddress ⟨1, true⟩ (.allocAligned 5) ⟨8, 5, 5, 1⟩ rfl haligned _ (by decide)

end Arena

end ArenaAlloc
