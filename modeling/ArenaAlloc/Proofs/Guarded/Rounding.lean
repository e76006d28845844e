import Mathlib.Data.Set.Basic
import ArenaAlloc.Proofs.Guarded.Storage

/-! Rounding up to a power of two, over all words. The checked form finds the least multiple that is
a word. The guarded forms stop one multiple short of the end: their sum is one more than the sum under
the mask. Where sums wrap around instead, the difference that follows takes the wrap back. -/
namespace ArenaAlloc.Word

variable {x y a j : Nat}

/-- The words from `x` on that are multiples of `a`. -/
def multiples (x a : Nat) : Set Nat := {m | a ∣ m ∧ x ≤ m ∧ m < limit}

/-- Rounding up where a sum that is no word wraps around. -/
def roundUpWrapped (u v : UInt64) : UInt64 := (u + v - 1) &&& ~~~(v - 1)

def paddingWrapped (u v : UInt64) : UInt64 := roundUpWrapped u v - u

/-- All that is told of a word `x` once the checked form rounds it up to `y`. -/
structure RoundsTo (x a y : Nat) : Prop where
  plain : roundUp x a = y ∧ padding x a = y - x
  near : y - x < a
  still : padding x a = 0 ↔ a ∣ x
  again : roundUp? y a = some y ∧ roundUp y a = y
  shifted : ∀ b, a ∣ b → b + y < limit →
    roundUp? (b + x) a = some (b + y) ∧ padding (b + x) a = padding x a
  /-- With guards there is no outcome for the last multiple of all. -/
  guarded : roundUpGuarded x a = (if x + a = limit then none else some y) ∧
    paddingGuarded x a = (if x + a = limit then none else some (y - x))
  wrapped : (roundUpWrapped (.ofNat x) (.ofNat a)).toNat = y ∧
    (paddingWrapped (.ofNat x) (.ofNat a)).toNat = y - x

theorem roundUp?_eq_some_iff (hj : j ≤ 64) :
    roundUp? x (2 ^ j) = some y ↔ roundUp x (2 ^ j) = y ∧ y < limit := by
  rw [roundUp?_two_pow hj]
  by_cases hle : limit ≤ roundUp x (2 ^ j)
  · rw [if_pos hle]
    constructor
    · intro h
      cases h
    · rintro ⟨rfl, hlt⟩
      exact absurd hle (Nat.not_le_of_lt hlt)
  · rw [if_neg hle, Option.some_inj]
    constructor
    · rintro rfl
      exact ⟨rfl, Nat.lt_of_not_le hle⟩
    · exact And.left

theorem roundUp?_eq_some_iff_isLeast (hj : j ≤ 64) :
    roundUp? x (2 ^ j) = some y ↔ IsLeast (multiples x (2 ^ j)) y := by
  have hleast := isLeast_roundUp x j
  rw [roundUp?_eq_some_iff hj]
  constructor
  · rintro ⟨rfl, hlt⟩
    refine ⟨⟨hleast.1.1, hleast.1.2, hlt⟩, ?_⟩
    rintro m ⟨hdvd, hle, -⟩
    exact hleast.2 ⟨hdvd, hle⟩
  · rintro ⟨⟨hdvd, hle, hlt⟩, hlower⟩
    have hbelow : roundUp x (2 ^ j) ≤ y := hleast.2 ⟨hdvd, hle⟩
    have habove : y ≤ roundUp x (2 ^ j) :=
      hlower ⟨hleast.1.1, hleast.1.2, Nat.lt_of_le_of_lt hbelow hlt⟩
    exact ⟨Nat.le_antisymm hbelow habove, hlt⟩

theorem roundUp?_eq_none_iff (hj : j ≤ 64) :
    roundUp? x (2 ^ j) = none ↔ multiples x (2 ^ j) = ∅ := by
  rw [Set.eq_empty_iff_forall_notMem]
  constructor
  · rintro hnone m ⟨hdvd, hle, hlt⟩
    have hround : roundUp x (2 ^ j) ≤ m := (isLeast_roundUp x j).2 ⟨hdvd, hle⟩
    have hsome := (roundUp?_eq_some_iff hj).mpr ⟨rfl, Nat.lt_of_le_of_lt hround hlt⟩
    cases hnone.symm.trans hsome
  · intro hempty
    cases h : roundUp? x (2 ^ j) with
    | none => rfl
    | some y => exact absurd ((roundUp?_eq_some_iff_isLeast hj).mp h).1 (hempty y)

theorem roundUp?_mono {x' y' : Nat} (hj : j ≤ 64) (hx : x ≤ x')
    (h : roundUp? x' (2 ^ j) = some y') : ∃ y ≤ y', roundUp? x (2 ^ j) = some y := by
  obtain ⟨rfl, hlt⟩ := (roundUp?_eq_some_iff hj).mp h
  have hle := roundUp_mono hx j
  exact ⟨_, hle, (roundUp?_eq_some_iff hj).mpr ⟨rfl, Nat.lt_of_le_of_lt hle hlt⟩⟩

/-- What is rounded already is rounded again to itself. -/
theorem roundUp?_self (hj : j ≤ 64) (h : roundUp? x (2 ^ j) = some y) :
    roundUp? y (2 ^ j) = some y := by
  obtain ⟨rfl, hlt⟩ := (roundUp?_eq_some_iff hj).mp h
  exact (roundUp?_eq_some_iff hj).mpr ⟨roundUp_of_dvd (dvd_roundUp x j), hlt⟩

theorem roundUp?_add {b : Nat} (hj : j ≤ 64) (h : roundUp? x (2 ^ j) = some y) (hb : 2 ^ j ∣ b)
    (hlt : b + y < limit) : roundUp? (b + x) (2 ^ j) = some (b + y) := by
  obtain ⟨rfl, -⟩ := (roundUp?_eq_some_iff hj).mp h
  exact (roundUp?_eq_some_iff hj).mpr ⟨roundUp_add hb x, hlt⟩

theorem sum_le_of_roundUp? (ha : 0 < a) (h : roundUp? x a = some y) : x + a ≤ limit := by
  by_contra hsum
  have hnone : roundUp? x a = none := by
    rw [roundUp?, add?, if_neg (by omega)]
    rfl
  cases hnone.symm.trans h

/-- Of all words with a multiple left, just the last multiple lacks the guarded outcome. -/
theorem roundUpGuarded_of_roundUp? (hj : j ≤ 64) (h : roundUp? x (2 ^ j) = some y) :
    roundUpGuarded x (2 ^ j) = if x + 2 ^ j = limit then none else some y := by
  have hpos : 0 < 2 ^ j := Nat.two_pow_pos j
  have hsum := sum_le_of_roundUp? hpos h
  obtain ⟨rfl, -⟩ := (roundUp?_eq_some_iff hj).mp h
  rw [roundUpGuarded_eq_ite hpos]
  by_cases hlast : x + 2 ^ j = limit
  · rw [if_pos hlast, if_neg (Nat.not_lt_of_le (Nat.le_of_eq hlast.symm))]
  · rw [if_neg hlast, if_pos (Nat.lt_of_le_of_ne hsum hlast)]

theorem paddingGuarded_of_roundUp? (hj : j ≤ 64) (h : roundUp? x (2 ^ j) = some y) :
    paddingGuarded x (2 ^ j) = if x + 2 ^ j = limit then none else some (y - x) := by
  have hle : x ≤ y := ((roundUp?_eq_some_iff_isLeast hj).mp h).1.2.1
  rw [paddingGuarded_eq_bind, roundUpGuarded_of_roundUp? hj h]
  by_cases hlast : x + 2 ^ j = limit
  · rw [if_pos hlast, if_pos hlast]
    rfl
  · rw [if_neg hlast, if_neg hlast]
    exact sub?_of_le hle

/-- The bits outside a mask and those under it have no carry between them. -/
theorem toNat_and_not_add (p q : BitVec 64) : (p &&& ~~~q).toNat + (p &&& q).toNat = p.toNat := by
  have hapart : (p &&& ~~~q) &&& (p &&& q) = 0#64 := by
    calc (p &&& ~~~q) &&& (p &&& q) = p &&& p &&& (~~~q &&& q) := by ac_rfl
      _ = p &&& p &&& 0#64 := congrArg _ (BitVec.not_and_self q)
      _ = 0#64 := BitVec.and_zero
  have hjoin : (p &&& ~~~q) ||| (p &&& q) = p := by
    rw [← BitVec.and_or_distrib_left, BitVec.not_or_self, BitVec.and_allOnes]
  rw [← BitVec.toNat_add_of_and_eq_zero hapart, BitVec.add_eq_or_of_and_eq_zero _ _ hapart, hjoin]

theorem toNat_and_not (u m : UInt64) : (u &&& ~~~m).toNat = clear u.toNat m.toNat :=
  Nat.eq_sub_of_add_eq (toNat_and_not_add u.toBitVec m.toBitVec)

theorem toNat_roundUpWrapped {u v : UInt64} (hv : 0 < v.toNat)
    (hsum : u.toNat + v.toNat ≤ limit) :
    (roundUpWrapped u v).toNat = roundUp u.toNat v.toNat := by
  -- The sum with all of `v` may wrap around to zero, and the difference takes it back.
  have hback : u + v - 1 = u + (v - 1) := by
    rw [UInt64.sub_eq_add_neg, UInt64.add_assoc, ← UInt64.sub_eq_add_neg]
  have hmask : (v - 1).toNat = v.toNat - 1 :=
    UInt64.toNat_sub_of_le v 1 (UInt64.le_iff_toNat_le.mpr hv)
  have hword : u.toNat + (v.toNat - 1) < 2 ^ 64 := by
    rw [← Nat.add_sub_assoc hv]
    exact Nat.sub_one_lt_of_le (Nat.add_pos_right _ hv) hsum
  have hunder : (u + (v - 1)).toNat = u.toNat + (v.toNat - 1) := by
    rw [UInt64.toNat_add, hmask, Nat.mod_eq_of_lt hword]
  rw [roundUpWrapped, hback, toNat_and_not, hunder, hmask, roundUp]

section Wrapped

variable (hj : j < 64) (h : roundUp? x (2 ^ j) = some y)
include hj h

theorem toNat_ofNat_of_roundUp? :
    (UInt64.ofNat x).toNat = x ∧ (UInt64.ofNat (2 ^ j)).toNat = 2 ^ j := by
  obtain ⟨⟨-, hle, hlt⟩, -⟩ := (roundUp?_eq_some_iff_isLeast (Nat.le_of_lt hj)).mp h
  exact ⟨UInt64.toNat_ofNat_of_lt' (Nat.lt_of_le_of_lt hle hlt),
    UInt64.toNat_ofNat_of_lt' (Nat.pow_lt_pow_right (by decide) hj)⟩

theorem roundUpWrapped_of_roundUp? :
    (roundUpWrapped (.ofNat x) (.ofNat (2 ^ j))).toNat = y := by
  have hpos : 0 < 2 ^ j := Nat.two_pow_pos j
  have hsum := sum_le_of_roundUp? hpos h
  obtain ⟨hx, ha⟩ := toNat_ofNat_of_roundUp? hj h
  obtain ⟨rfl, -⟩ := (roundUp?_eq_some_iff (Nat.le_of_lt hj)).mp h
  rw [toNat_roundUpWrapped (by rwa [ha]) (by rwa [hx, ha]), hx, ha]

theorem paddingWrapped_of_roundUp? :
    (paddingWrapped (.ofNat x) (.ofNat (2 ^ j))).toNat = y - x := by
  have hround := roundUpWrapped_of_roundUp? hj h
  obtain ⟨hx, -⟩ := toNat_ofNat_of_roundUp? hj h
  have hle : x ≤ y := ((roundUp?_eq_some_iff_isLeast (Nat.le_of_lt hj)).mp h).1.2.1
  have hback : (UInt64.ofNat x).toNat ≤ (roundUpWrapped (.ofNat x) (.ofNat (2 ^ j))).toNat := by
    rwa [hx, hround]
  rw [paddingWrapped, UInt64.toNat_sub_of_le _ _ (UInt64.le_iff_toNat_le.mpr hback), hround, hx]

end Wrapped

theorem roundsTo_of_roundUp? (hj : j < 64) (h : roundUp? x (2 ^ j) = some y) :
    RoundsTo x (2 ^ j) y := by
  have hle : j ≤ 64 := Nat.le_of_lt hj
  obtain ⟨rfl, -⟩ := (roundUp?_eq_some_iff hle).mp h
  exact {
    plain := ⟨rfl, rfl⟩
    near := padding_lt x j
    still := padding_eq_zero_iff
    again := ⟨roundUp?_self hle h, roundUp_of_dvd (dvd_roundUp x j)⟩
    shifted := fun b hb hlt => ⟨roundUp?_add hle h hb hlt, padding_add hb x⟩
    guarded := ⟨roundUpGuarded_of_roundUp? hle h, paddingGuarded_of_roundUp? hle h⟩
    wrapped := ⟨roundUpWrapped_of_roundUp? hj h, paddingWrapped_of_roundUp? hj h⟩ }

/-- The checked form tells the least multiple among the words, and nothing just if there is none. It
keeps the order. Wherever it tells a multiple, the plain form and the one that wraps around agree
with it, and so do the guarded forms but for the last multiple of all. -/
theorem rounding_exact_but_at_last_multiple (hj : j < 64) :
    (∀ x, roundUpGuarded? x (2 ^ j) = some (roundUp? x (2 ^ j))) ∧
    (∀ x y, roundUp? x (2 ^ j) = some y ↔ IsLeast (multiples x (2 ^ j)) y) ∧
    (∀ x, roundUp? x (2 ^ j) = none ↔ multiples x (2 ^ j) = ∅) ∧
    (∀ x x' y', x ≤ x' → roundUp? x' (2 ^ j) = some y' →
      ∃ y ≤ y', roundUp? x (2 ^ j) = some y) ∧
    ∀ x y, roundUp? x (2 ^ j) = some y → RoundsTo x (2 ^ j) y := by
  have hle : j ≤ 64 := Nat.le_of_lt hj
  refine ⟨?_, ?_, ?_, ?_, ?_⟩
  · intro x
    exact roundUpGuarded?_eq (Nat.two_pow_pos j)
  · intro x y
    exact roundUp?_eq_some_iff_isLeast hle
  · intro x
    exact roundUp?_eq_none_iff hle
  · intro x x' y' hx h
    exact roundUp?_mono hle hx h
  · intro x y h
    exact roundsTo_of_roundUp? hj h

/-- The last multiple of eight, a word that rounds up to it, and the word behind it. -/
theorem last_multiple_guarded :
    3 < 64 ∧ roundUp? (limit - 8) (2 ^ 3) = some (limit - 8) ∧
    RoundsTo (limit - 8) (2 ^ 3) (limit - 8) ∧
    roundUpGuarded (limit - 8) (2 ^ 3) = none ∧ paddingGuarded (limit - 8) (2 ^ 3) = none ∧
    IsLeast (multiples (limit - 13) (2 ^ 3)) (limit - 8) ∧
    roundUpGuarded (limit - 13) (2 ^ 3) = some (limit - 8) ∧
    paddingGuarded (limit - 13) (2 ^ 3) = some 5 ∧
    multiples (limit - 7) (2 ^ 3) = ∅ := by
  obtain ⟨-, hsome, hnone, -, hall⟩ := rounding_exact_but_at_last_multiple (by decide : 3 < 64)
  have hlast : roundUp? (limit - 8) (2 ^ 3) = some (limit - 8) := by decide
  have hbelow : roundUp? (limit - 13) (2 ^ 3) = some (limit - 8) := by decide
  obtain ⟨hround, hpadding⟩ := (hall _ _ hlast).guarded
  obtain ⟨hround', hpadding'⟩ := (hall _ _ hbelow).guarded
  exact ⟨by decide, hlast, hall _ _ hlast, hround, hpadding, (hsome _ _).mp hbelow, hround',
    hpadding', (hnone _).mp (by decide)⟩

theorem not_every_rounded_word_guarded :
    (¬ ∀ x j y, j < 64 → roundUp? x (2 ^ j) = some y → roundUpGuarded x (2 ^ j) = some y) ∧
    ¬ ∀ x j y, j < 64 → roundUp? x (2 ^ j) = some y →
      paddingGuarded x (2 ^ j) = some (y - x) := by
  have hlast : roundUp? (limit - 8) (2 ^ 3) = some (limit - 8) := by decide
  constructor
  · intro hall
    exact absurd (hall _ 3 _ (by decide) hlast) (by decide)
  · intro hall
    exact absurd (hall _ 3 _ (by decide) hlast) (by decide)

end ArenaAlloc.Word
