import ArenaAlloc.Proofs.Mapping
import ArenaAlloc.Reply

/-! What mappings keep from their creation on: they are as long as their capacity in whole pages, and
what lies behind the capacity is zero, whichever way they grow. -/
namespace ArenaAlloc.Mapping

/-- What is done to a mapping. Scrubbing is a write of zeros. -/
inductive Op where
  | write (start : Nat) (data : List UInt8)
  | grow (capacity used : Nat)

/-- Writes end at the capacity, and no more than the capacity is in use. -/
def Op.Within (m : Mapping) : Op → Prop
  | .write start data => start + data.length ≤ m.capacity
  | .grow _ used => used ≤ m.capacity

def step (k : Kernel) (m : Mapping) : Op → Reply Mapping (Except Fault Unit)
  | .write start data => { state := m.write start data, result := .ok () }
  | .grow capacity used =>
    match m.grow k capacity used with
    | .ok m' => { state := m', result := .ok () }
    | .error f => .fail m f

/-- A mapping after any operations within it, some of which may have failed. None is created for
nothing. -/
inductive Reachable : Mapping → Prop
  | created {k : Kernel} {capacity : Nat} {m : Mapping} : 0 < capacity →
      create k capacity = .ok m → Reachable m
  | step {k : Kernel} {m : Mapping} {op : Op} : Reachable m → op.Within m →
      Reachable (m.step k op).state

/-- The invariant: nothing behind the capacity was ever written. -/
structure Paged (m : Mapping) : Prop where
  pos : 0 < m.capacity
  whole : m.mapped = Word.roundUp m.capacity pageSize
  slack : ∀ i, m.capacity ≤ i → m.bytes.get i = 0

variable {k : Kernel} {m m' : Mapping} {op : Op} {f : Fault} {capacity used start n : Nat}
  {data : List UInt8}

theorem paged_of_create (hn : 0 < n) (h : create k n = .ok m) : m.Paged := by
  obtain ⟨mapped, hmapped, -, rfl⟩ := create_eq_ok h
  obtain ⟨rfl, -⟩ := lengthFor_eq_ok hmapped
  exact ⟨hn, rfl, fun _ _ => rfl⟩

theorem Paged.write (h : m.Paged) (hin : start + data.length ≤ m.capacity) :
    (m.write start data).Paged := by
  refine ⟨h.pos, h.whole, ?_⟩
  intro i hi
  have hout : ¬ (start ≤ i ∧ i < start + data.length) := by
    change m.capacity ≤ i at hi
    omega
  rw [get_write, if_neg hout]
  exact h.slack i hi

/-- Within the slack the whole pages stay the same, and any other way takes their number from the new
capacity. -/
theorem Paged.grown (h : m.Paged) (hu : used ≤ m.capacity) (hg : Grown k m capacity used m') :
    m'.Paged := by
  have hpos := h.pos
  cases hg with
  | enough => exact h
  | slack hlt hle =>
    refine ⟨Nat.lt_trans hpos hlt, ?_, ?_⟩
    · rw [h.whole] at hle
      exact h.whole.trans (Word.roundUp_eq_of_le (j := 12) (Nat.le_of_lt hlt) hle).symm
    · intro i hi
      exact h.slack i (Nat.le_trans (Nat.le_of_lt hlt) hi)
  | extended hlt _ hn =>
    refine ⟨Nat.lt_trans hpos hlt, (lengthFor_eq_ok hn).1, ?_⟩
    intro i hi
    exact h.slack i (Nat.le_trans (Nat.le_of_lt hlt) hi)
  | moved hlt _ hn =>
    refine ⟨Nat.lt_trans hpos hlt, (lengthFor_eq_ok hn).1, ?_⟩
    intro i hi
    have hout : ¬ i < used := by
      change capacity ≤ i at hi
      omega
    exact (Bytes.get_take _ _ _).trans (if_neg hout)

theorem step_grow_of_ok (h : (m.step k (.grow n used)).result = .ok ()) :
    Grown k m n used (m.step k (.grow n used)).state := by
  simp only [step] at h ⊢
  cases hgrow : m.grow k n used with
  | ok m' => exact grown_of_grow hgrow
  | error f =>
    rw [hgrow] at h
    cases h

theorem step_grow_error_iff :
    (m.step k (.grow n used)).result = .error f ↔ m.grow k n used = .error f := by
  simp only [step]
  cases m.grow k n used with
  | ok m' => simp
  | error g => simp [Reply.fail]

theorem state_of_error (h : (m.step k op).result = .error f) : (m.step k op).state = m := by
  cases op with
  | write start data => cases h
  | grow n used =>
    have hgrow := step_grow_error_iff.mp h
    simp only [step, hgrow]
    rfl

theorem Paged.step (h : m.Paged) (hin : op.Within m) : (m.step k op).state.Paged := by
  cases hr : (m.step k op).result with
  | error f =>
    rw [state_of_error hr]
    exact h
  | ok =>
    cases op with
    | write start data => exact h.write hin
    | grow n used => exact h.grown hin (step_grow_of_ok hr)

theorem Reachable.paged (h : m.Reachable) : m.Paged := by
  induction h with
  | created hn hc => exact paged_of_create hn hc
  | step _ hin ih => exact ih.step hin

namespace Grown

theorem capacity_eq_max (h : Grown k m capacity used m') : m'.capacity = max m.capacity capacity := by
  cases h with
  | enough hle => exact (Nat.max_eq_left hle).symm
  | slack hlt | extended hlt | moved hlt => exact (Nat.max_eq_right (Nat.le_of_lt hlt)).symm

theorem bytes_eq (h : Grown k m capacity used m') (hle : capacity ≤ m.mapped) :
    m'.bytes = m.bytes := by
  cases h with
  | enough | slack => rfl
  | extended _ hlt | moved _ hlt => exact absurd hlt (Nat.not_lt_of_le hle)

end Grown

/-- A mapping is as long as its capacity takes in whole pages, and zero behind it. Growth raises the
capacity to what is asked for and keeps the bytes in use, and all bytes if no page is added. It fails
just for a length that no system maps, and then nothing has changed. -/
theorem grown_in_whole_pages (h : m.Reachable) :
    0 < m.capacity ∧ m.capacity ≤ m.mapped ∧
    IsLeast {n | pageSize ∣ n ∧ m.capacity ≤ n} m.mapped ∧
    (∀ i, m.capacity ≤ i → i < m.mapped → m.bytes.get i = 0) ∧
    ∀ k n used, used ≤ m.capacity →
      ((m.step k (.grow n used)).result = .ok () →
        (m.step k (.grow n used)).state.capacity = max m.capacity n ∧
        (∀ i < used, (m.step k (.grow n used)).state.bytes.get i = m.bytes.get i) ∧
        (n ≤ m.mapped → ∀ i < m.mapped,
          (m.step k (.grow n used)).state.bytes.get i = m.bytes.get i)) ∧
      (k.page ≠ 0 → ∀ f,
        (m.step k (.grow n used)).result = .error f ↔ m.mapped < n ∧ TooLong n f) ∧
      ∀ f, (m.step k (.grow n used)).result = .error f → (m.step k (.grow n used)).state = m := by
  have hpaged := h.paged
  have hleast : IsLeast {n | pageSize ∣ n ∧ m.capacity ≤ n} m.mapped := by
    rw [hpaged.whole]
    exact Word.isLeast_roundUp m.capacity 12
  have hheld : m.capacity ≤ m.mapped := hleast.1.2
  refine ⟨hpaged.pos, hheld, hleast, fun i hi _ => hpaged.slack i hi, ?_⟩
  intro k n used _
  refine ⟨?_, ?_, fun f hf => state_of_error hf⟩
  · intro hok
    have hgrown := step_grow_of_ok hok
    refine ⟨hgrown.capacity_eq_max, fun i hi => hgrown.get_bytes hi, ?_⟩
    intro hle i _
    rw [hgrown.bytes_eq hle]
  · intro hk f
    rw [step_grow_error_iff, grow_error_iff hk]
    constructor
    · rintro ⟨-, hlt, hlong⟩
      exact ⟨hlt, hlong⟩
    · rintro ⟨hlt, hlong⟩
      exact ⟨Nat.lt_of_le_of_lt hheld hlt, hlt, hlong⟩

/-- Written up to its capacity, then moved with only some of these bytes in use. -/
def resettled : Mapping :=
  (((Mapping.mk 1 4 4096 {}).step ⟨1, true⟩ (.write 0 [1, 2, 3, 4])).state.step ⟨2, false⟩
    (.grow 5000 2)).state

theorem resettled_grown :
    resettled.Reachable ∧ IsLeast {n | pageSize ∣ n ∧ 5000 ≤ n} 8192 ∧
    resettled.bytes.get 1 = 2 ∧ resettled.bytes.get 2 = 0 ∧
    (resettled.step ⟨3, false⟩ (.grow 8000 2)).state.bytes.get 1 = 2 ∧
    (resettled.step ⟨3, true⟩ (.grow mappingLimit 2)).result =
      .error (.allocationFailed mappingLimit) ∧
    (resettled.step ⟨3, true⟩ (.grow mappingLimit 2)).state = resettled := by
  have hcreated : create ⟨1, true⟩ 4 = .ok (Mapping.mk 1 4 4096 {}) := rfl
  have hwritten : 0 + [1, 2, 3, 4].length ≤ 4 := by decide
  have hreachable : resettled.Reachable :=
    .step (.step (.created (by decide) hcreated) hwritten) (by decide : 2 ≤ 4)
  obtain ⟨-, -, hleast, -, hgrow⟩ := grown_in_whole_pages hreachable
  obtain ⟨hok, -, -⟩ := hgrow ⟨3, false⟩ 8000 2 (by decide)
  obtain ⟨-, -, hbytes⟩ := hok rfl
  obtain ⟨-, hfails, hstate⟩ := hgrow ⟨3, true⟩ mappingLimit 2 (by decide)
  have hlong : TooLong mappingLimit (.allocationFailed mappingLimit) :=
    .refused (by decide) (by decide)
  have hrefused := (hfails (by decide) (.allocationFailed mappingLimit)).mpr ⟨by decide, hlong⟩
  exact ⟨hreachable, hleast, rfl, rfl, hbytes (by decide) 1 (by decide), hrefused,
    hstate _ hrefused⟩

end ArenaAlloc.Mapping
