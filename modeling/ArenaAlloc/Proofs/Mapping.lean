import ArenaAlloc.Memory.Mapping
import ArenaAlloc.Proofs.Word

/-! The ways in which a mapping grows, all of which keep the bytes in use, and the capacities that
no mapping can have. -/
namespace ArenaAlloc.Mapping

variable {k : Kernel} {m m' : Mapping} {f : Fault} {capacity used i : Nat}

inductive Grown (k : Kernel) (m : Mapping) (capacity used : Nat) : Mapping → Prop
  | enough : capacity ≤ m.capacity → Grown k m capacity used m
  | slack : m.capacity < capacity → capacity ≤ m.mapped →
      Grown k m capacity used { m with capacity }
  | extended {n : Nat} : m.capacity < capacity → m.mapped < capacity →
      lengthFor capacity = .ok n → k.canExtend = true →
      Grown k m capacity used { m with capacity, mapped := n }
  | moved {n : Nat} : m.capacity < capacity → m.mapped < capacity →
      lengthFor capacity = .ok n → k.page ≠ 0 →
      Grown k m capacity used
        { page := k.page, capacity, mapped := n, bytes := m.bytes.take used }

theorem bind_eq_ok {ε α β : Type} {x : Except ε α} {f : α → Except ε β} {b : β}
    (h : x.bind f = .ok b) : ∃ a, x = .ok a ∧ f a = .ok b := by
  cases x with
  | error e => cases h
  | ok a => exact ⟨a, rfl, h⟩

theorem map_eq_ok {ε α β : Type} {x : Except ε α} {f : α → β} {b : β} (h : x.map f = .ok b) :
    ∃ a, x = .ok a ∧ f a = b := by
  cases x with
  | error e => cases h
  | ok a => exact ⟨a, rfl, Except.ok.inj h⟩

theorem fresh_eq_ok {mapped : Nat} {bytes : Bytes} (h : fresh k capacity mapped bytes = .ok m') :
    k.page ≠ 0 ∧ m' = { page := k.page, capacity, mapped, bytes } := by
  simp only [fresh] at h
  split at h
  · cases h
  · rename_i hp
    cases h
    exact ⟨hp, rfl⟩

theorem create_eq_ok (h : create k capacity = .ok m') :
    ∃ n, lengthFor capacity = .ok n ∧ k.page ≠ 0 ∧
      m' = { page := k.page, capacity, mapped := n } := by
  obtain ⟨n, hn, hm⟩ := bind_eq_ok h
  exact ⟨n, hn, fresh_eq_ok hm⟩

theorem grown_of_grow (h : m.grow k capacity used = .ok m') : Grown k m capacity used m' := by
  simp only [grow] at h
  split at h
  · rename_i hc
    cases h
    exact .enough hc
  rename_i hc
  split at h
  · rename_i hm
    cases h
    exact .slack (by omega) hm
  rename_i hm
  obtain ⟨n, hn, h⟩ := bind_eq_ok h
  split at h
  · rename_i he
    cases h
    exact .extended (by omega) (by omega) hn he
  · obtain ⟨hp, rfl⟩ := fresh_eq_ok h
    exact .moved (by omega) (by omega) hn hp

namespace Grown

theorem capacity_le (h : Grown k m capacity used m') : capacity ≤ m'.capacity := by
  cases h with
  | enough hc => exact hc
  | slack | extended | moved => exact Nat.le_refl _

theorem get_bytes (h : Grown k m capacity used m') (hi : i < used) :
    m'.bytes.get i = m.bytes.get i := by
  cases h with
  | enough | slack | extended => rfl
  | moved => exact (Bytes.get_take _ _ _).trans (if_pos hi)

/-- Growth adds zeros, and a move leaves zeros behind the bytes in use. -/
theorem byte_or_zero (h : Grown k m capacity used m') (i : Nat) :
    m'.bytes.get i = m.bytes.get i ∨ m'.bytes.get i = 0 := by
  cases h with
  | enough | slack | extended => exact Or.inl rfl
  | moved =>
    by_cases hi : i < used
    · exact Or.inl ((Bytes.get_take _ _ _).trans (if_pos hi))
    · exact Or.inr ((Bytes.get_take _ _ _).trans (if_neg hi))

end Grown

theorem lengthFor_eq_ok (h : lengthFor capacity = .ok n) :
    n = Word.roundUp capacity pageSize ∧ n < mappingLimit := by
  unfold lengthFor at h
  rw [Word.roundUp?_page] at h
  split at h
  · cases h
  · rename_i n' hsome
    split at h
    · rename_i hlt
      cases h
      simp only [Option.ite_none_left_eq_some, Option.some.injEq] at hsome
      exact ⟨hsome.2.symm, hlt⟩
    · cases h

/-- Why a capacity cannot be mapped at all: its whole pages are no word, or too many. -/
inductive TooLong (capacity : Nat) : Fault → Prop
  | noWord : Word.limit ≤ Word.roundUp capacity pageSize →
      TooLong capacity (.capacityOverflow capacity)
  | refused : Word.roundUp capacity pageSize < Word.limit →
      mappingLimit ≤ Word.roundUp capacity pageSize →
      TooLong capacity (.allocationFailed capacity)

theorem lengthFor_error_iff : lengthFor capacity = .error f ↔ TooLong capacity f := by
  unfold lengthFor
  rw [Word.roundUp?_page]
  constructor
  · intro h
    split at h
    · rename_i hnone
      cases h
      exact .noWord (by simpa using hnone)
    · rename_i n hsome
      obtain ⟨hword, rfl⟩ : Word.roundUp capacity pageSize < Word.limit ∧
          Word.roundUp capacity pageSize = n := by simpa using hsome
      split at h
      · cases h
      · rename_i hlong
        cases h
        exact .refused hword (Nat.le_of_not_lt hlong)
  · intro h
    cases h with
    | noWord hword => rw [if_pos hword]
    | refused hword hlong =>
      rw [if_neg (Nat.not_le_of_lt hword)]
      exact if_neg (Nat.not_lt_of_le hlong)

theorem bind_eq_error_iff {ε α β : Type} {x : Except ε α} {g : α → Except ε β} {e : ε}
    (hg : ∀ a, g a ≠ .error e) : x.bind g = .error e ↔ x = .error e := by
  cases x with
  | error e' => simp [Except.bind]
  | ok a => exact iff_of_false (hg a) nofun

theorem fresh_of_granted {mapped : Nat} {bytes : Bytes} (hk : k.page ≠ 0) :
    fresh k capacity mapped bytes = .ok { page := k.page, capacity, mapped, bytes } :=
  if_neg hk

theorem create_error_iff (hk : k.page ≠ 0) : create k capacity = .error f ↔ TooLong capacity f := by
  rw [create, bind_eq_error_iff, lengthFor_error_iff]
  intro n
  rw [fresh_of_granted hk]
  exact nofun

theorem grow_error_iff (hk : k.page ≠ 0) :
    m.grow k capacity used = .error f ↔
      m.capacity < capacity ∧ m.mapped < capacity ∧ TooLong capacity f := by
  have hgrant : ∀ n, (if k.canExtend then Except.ok { m with capacity, mapped := n }
      else fresh k capacity n (m.bytes.take used)) ≠ .error f := by
    intro n
    rw [fresh_of_granted hk]
    split <;> exact nofun
  simp only [grow]
  split
  · rename_i hle
    exact iff_of_false nofun (by omega)
  split
  · rename_i hle
    exact iff_of_false nofun (by omega)
  · rename_i hcapacity hmapped
    rw [bind_eq_error_iff hgrant, lengthFor_error_iff, and_iff_right (by omega),
      and_iff_right (by omega)]

/-- Bytes that are all zero, read in order. -/
theorem map_range'_eq_replicate {byte : Nat → UInt8} {start len : Nat}
    (h : ∀ i < len, byte (start + i) = 0) :
    (List.range' start len).map byte = List.replicate len 0 := by
  apply List.eq_replicate_iff.mpr
  refine ⟨by simp, ?_⟩
  intro v hv
  obtain ⟨j, hj, rfl⟩ := List.mem_map.mp hv
  obtain ⟨i, hi, rfl⟩ := List.mem_range'.mp hj
  rw [Nat.one_mul]
  exact h i hi

theorem get_write (m : Mapping) (start i : Nat) (data : List UInt8) :
    (m.write start data).bytes.get i =
      if start ≤ i ∧ i < start + data.length then data.getD (i - start) 0 else m.bytes.get i :=
  Bytes.get_write _ _ _ _

/-- Data stored in a piece of `len` bytes, from its byte `start` on, as seen from within. -/
theorem get_write_within (m : Mapping) (offset start : Nat) (data : List UInt8) {len : Nat}
    (hi : i < len) :
    (m.write (offset + start) (data.take (len - start))).bytes.get (offset + i) =
      if start ≤ i then data[i - start]?.getD (m.bytes.get (offset + i))
      else m.bytes.get (offset + i) := by
  rw [get_write, List.length_take, Nat.add_sub_add_left]
  by_cases hin : start ≤ i ∧ i - start < data.length
  · rw [if_pos (by omega), if_pos hin.1, List.getD_eq_getElem?_getD,
      List.getElem?_take_of_lt (by omega), List.getElem?_eq_getElem hin.2]
    rfl
  · rw [if_neg (by omega)]
    split
    · rw [List.getElem?_eq_none (by omega)]
      rfl
    · rfl

theorem get_write_outside (m : Mapping) (offset start : Nat) (data : List UInt8) {len : Nat}
    (hi : i < offset ∨ offset + len ≤ i) :
    (m.write (offset + start) (data.take (len - start))).bytes.get i = m.bytes.get i := by
  rw [get_write, List.length_take]
  exact if_neg (by omega)

theorem get_zero (m : Mapping) (start len i : Nat) :
    (m.zero start len).bytes.get i =
      if start ≤ i ∧ i < start + len then 0 else m.bytes.get i := by
  rw [zero, Bytes.zero, Bytes.get_write, List.length_replicate]
  split
  · rw [List.getD_eq_getElem?_getD, List.getElem?_replicate]
    split <;> rfl
  · rfl

end ArenaAlloc.Mapping
