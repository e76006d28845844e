import Mathlib.Algebra.Group.Nat.Defs
import Mathlib.Order.Bounds.Basic
import ArenaAlloc.Memory.Mapping
import ArenaAlloc.Word

/-! Rounding up to a power of two: the mask clears just the remainder, so the outcome is a multiple,
and less than one step away. -/
namespace ArenaAlloc.Word

variable {x y j : Nat}

theorem clear_mask (x j : Nat) : clear x (2 ^ j - 1) = 2 ^ j * (x / 2 ^ j) := by
  have hmod : x &&& (2 ^ j - 1) = x % 2 ^ j := Nat.and_two_pow_sub_one_eq_mod x j
  have hsplit := Nat.div_add_mod x (2 ^ j)
  rw [clear, hmod]
  omega

theorem roundUp_eq (x j : Nat) : roundUp x (2 ^ j) = 2 ^ j * ((x + (2 ^ j - 1)) / 2 ^ j) :=
  clear_mask _ j

theorem dvd_roundUp (x j : Nat) : 2 ^ j ∣ roundUp x (2 ^ j) :=
  ⟨_, roundUp_eq x j⟩

theorem roundUp_lt (x j : Nat) : roundUp x (2 ^ j) < x + 2 ^ j := by
  have hpos : 0 < 2 ^ j := Nat.two_pow_pos j
  have hle := Nat.mul_div_le (x + (2 ^ j - 1)) (2 ^ j)
  rw [roundUp_eq]
  omega

theorem isLeast_roundUp (x j : Nat) :
    IsLeast {m | 2 ^ j ∣ m ∧ x ≤ m} (roundUp x (2 ^ j)) := by
  refine ⟨⟨dvd_roundUp x j, le_roundUp x (2 ^ j)⟩, ?_⟩
  rintro m ⟨hdvd, hle⟩
  by_contra hlt
  have hround := roundUp_lt x j
  have hdiff : 2 ^ j ∣ roundUp x (2 ^ j) - m := Nat.dvd_sub (dvd_roundUp x j) hdvd
  have hzero := Nat.eq_zero_of_dvd_of_lt hdiff (by omega)
  omega

theorem roundUp_of_dvd (h : 2 ^ j ∣ x) : roundUp x (2 ^ j) = x := by
  apply Nat.le_antisymm
  · exact (isLeast_roundUp x j).2 ⟨h, Nat.le_refl x⟩
  · exact le_roundUp x (2 ^ j)

theorem roundUp_mono (h : x ≤ y) (j : Nat) : roundUp x (2 ^ j) ≤ roundUp y (2 ^ j) :=
  (isLeast_roundUp x j).2 ⟨dvd_roundUp y j, Nat.le_trans h (le_roundUp y _)⟩

theorem roundUp_add (h : 2 ^ j ∣ y) (x : Nat) :
    roundUp (y + x) (2 ^ j) = y + roundUp x (2 ^ j) := by
  obtain ⟨q, rfl⟩ := h
  rw [roundUp_eq, roundUp_eq, Nat.add_assoc, Nat.mul_add_div (Nat.two_pow_pos j), Nat.mul_add]

/-- All that lies below a multiple rounds up to it, from the multiple before it on. -/
theorem roundUp_eq_of_le (hx : x ≤ y) (hy : y ≤ roundUp x (2 ^ j)) :
    roundUp y (2 ^ j) = roundUp x (2 ^ j) := by
  apply Nat.le_antisymm
  · exact (isLeast_roundUp y j).2 ⟨dvd_roundUp x j, hy⟩
  · exact roundUp_mono hx j

theorem padding_lt (x j : Nat) : padding x (2 ^ j) < 2 ^ j := by
  have hlt := roundUp_lt x j
  have hsum := add_padding x (2 ^ j)
  omega

theorem isLeast_padding (x j : Nat) : IsLeast {p | 2 ^ j ∣ x + p} (padding x (2 ^ j)) := by
  constructor
  · change 2 ^ j ∣ x + padding x (2 ^ j)
    rw [add_padding]
    exact dvd_roundUp x j
  · intro p hp
    have hleast := (isLeast_roundUp x j).2 ⟨hp, Nat.le_add_right x p⟩
    have hsum := add_padding x (2 ^ j)
    omega

/-- What is a multiple already stays where it is. -/
theorem padding_eq_zero (h : 2 ^ j ∣ x) : padding x (2 ^ j) = 0 := by
  rw [padding, roundUp_of_dvd h, Nat.sub_self]

theorem padding_eq_zero_iff : padding x (2 ^ j) = 0 ↔ 2 ^ j ∣ x := by
  constructor
  · intro hzero
    have hsum := add_padding x (2 ^ j)
    rw [hzero, Nat.add_zero] at hsum
    exact hsum ▸ dvd_roundUp x j
  · exact padding_eq_zero

/-- Multiples in front do not matter. -/
theorem padding_add (h : 2 ^ j ∣ y) (x : Nat) : padding (y + x) (2 ^ j) = padding x (2 ^ j) := by
  rw [padding, padding, roundUp_add h, Nat.add_sub_add_left]

/-- Replacing one entry of a list changes the total of a figure by the difference. -/
theorem total_map_set {α : Type} {l : List α} {i : Nat} {a : α} (h : l[i]? = some a) (f : α → Nat)
    (b : α) : total ((l.set i b).map f) + f a = total (l.map f) + f b := by
  induction l generalizing i with
  | nil => simp at h
  | cons c l ih =>
    cases i with
    | zero =>
      obtain rfl : c = a := by simpa using h
      simp only [total, List.set_cons_zero, List.map_cons, List.sum_cons]
      omega
    | succ i =>
      have hrest := ih (i := i) (by simpa using h)
      simp only [total, List.set_cons_succ, List.map_cons, List.sum_cons] at hrest ⊢
      omega

/-- Rounding fails just when its outcome would be no word: the limit is a multiple itself. -/
theorem roundUp?_two_pow (hj : j ≤ 64) (x : Nat) :
    roundUp? x (2 ^ j) =
      if limit ≤ roundUp x (2 ^ j) then none else some (roundUp x (2 ^ j)) := by
  have hround := roundUp_lt x j
  have hsum : limit ≤ roundUp x (2 ^ j) ↔ ¬ x + (2 ^ j - 1) < limit := by
    constructor
    · intro hle
      omega
    · intro hge
      by_contra hlt
      have hlimit : 2 ^ j ∣ limit := Nat.pow_dvd_pow 2 hj
      have hdiff : 2 ^ j ∣ limit - roundUp x (2 ^ j) := Nat.dvd_sub hlimit (dvd_roundUp x j)
      have hstep := Nat.le_of_dvd (by omega) hdiff
      have hle := le_roundUp x (2 ^ j)
      omega
  by_cases hword : x + (2 ^ j - 1) < limit
  · rw [if_neg (by rwa [hsum, not_not]), roundUp?, add?, if_pos hword]
    rfl
  · rw [if_pos (hsum.mpr hword), roundUp?, add?, if_neg hword]
    rfl

theorem roundUp?_page (x : Nat) :
    roundUp? x pageSize =
      if limit ≤ roundUp x pageSize then none else some (roundUp x pageSize) :=
  roundUp?_two_pow (by decide : 12 ≤ 64) x

end ArenaAlloc.Word
