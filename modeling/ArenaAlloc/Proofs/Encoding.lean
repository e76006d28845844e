import Mathlib.Algebra.Group.Nat.Defs
import ArenaAlloc.Plain

/-! Stored values have the size that their layout tells, and neither direction loses anything:
decoding gives back every value, and encoding every byte. -/
namespace ArenaAlloc

theorem length_littleEndian (n x : Nat) : (littleEndian n x).length = n := by
  induction n generalizing x with
  | zero => rfl
  | succ n ih => rw [littleEndian, List.length_cons, ih]

theorem ofLittleEndian_lt (bytes : List UInt8) : ofLittleEndian bytes < 256 ^ bytes.length := by
  induction bytes with
  | nil => exact Nat.one_pos
  | cons b bytes ih =>
    have hb : b.toNat < 256 := b.toNat_lt
    rw [ofLittleEndian, List.length_cons, Nat.pow_succ]
    omega

/-- What has more than `n` bytes keeps its low ones. -/
theorem ofLittleEndian_littleEndian (n x : Nat) :
    ofLittleEndian (littleEndian n x) = x % 256 ^ n := by
  induction n generalizing x with
  | zero => exact (Nat.mod_one x).symm
  | succ n ih =>
    have hbyte : (UInt8.ofNat (x % 256)).toNat = x % 256 :=
      UInt8.toNat_ofNat_of_lt (Nat.mod_lt x (by decide))
    rw [littleEndian, ofLittleEndian, hbyte, ih, Nat.pow_succ', Nat.mod_mul]

theorem littleEndian_ofLittleEndian (bytes : List UInt8) :
    littleEndian bytes.length (ofLittleEndian bytes) = bytes := by
  induction bytes with
  | nil => rfl
  | cons b bytes ih =>
    have hb : b.toNat < 256 := b.toNat_lt
    have hlow : (b.toNat + 256 * ofLittleEndian bytes) % 256 = b.toNat := by omega
    have hrest : (b.toNat + 256 * ofLittleEndian bytes) / 256 = ofLittleEndian bytes := by omega
    rw [List.length_cons, ofLittleEndian, littleEndian, hlow, hrest, ih, UInt8.ofNat_toNat]

theorem Width.modulus_pos (w : Width) : 0 < w.modulus := Nat.pow_pos (by decide)

namespace Scalar

variable {s : Scalar} {x : Int} {bytes : List UInt8}

theorem length_encode (s : Scalar) (x : Int) : (s.encode x).length = s.width.bytes :=
  length_littleEndian _ _

/-- The stored number is the integer up to a multiple of the modulus. -/
theorem ofLittleEndian_encode (s : Scalar) (x : Int) :
    (ofLittleEndian (s.encode x) : Int) = x % s.width.modulus := by
  have hpos : (0 : Int) < s.width.modulus := Int.natCast_pos.mpr s.width.modulus_pos
  have hlt := Int.emod_lt_of_pos x hpos
  have hnonneg := Int.emod_nonneg x (Int.ne_of_gt hpos)
  have hword : (x % s.width.modulus).toNat < 256 ^ s.width.bytes := by
    change _ < s.width.modulus
    omega
  rw [encode, ofLittleEndian_littleEndian, Nat.mod_eq_of_lt hword, Int.toNat_of_nonneg hnonneg]

theorem decode_encode (h : s.Holds x) : s.decode (s.encode x) = x := by
  simp only [decode, ofLittleEndian_encode]
  simp only [Holds] at h
  split at h
  · rename_i hs
    rw [if_pos hs, Int.emod_bmod]
    exact Int.bmod_eq_of_le_mul_two (by omega) (by omega)
  · rename_i hs
    rw [if_neg hs]
    exact Int.emod_eq_of_lt h.1 h.2

theorem holds_decode (h : bytes.length = s.width.bytes) : s.Holds (s.decode bytes) := by
  have hlt : ofLittleEndian bytes < s.width.modulus := by
    have := ofLittleEndian_lt bytes
    rwa [h] at this
  simp only [Holds, decode]
  split
  · have hlow := Int.le_bmod (x := ofLittleEndian bytes) s.width.modulus_pos
    have hhigh := Int.bmod_lt (x := ofLittleEndian bytes) s.width.modulus_pos
    have heven : s.width.modulus % 2 = 0 := by cases s.width <;> rfl
    omega
  · omega

theorem encode_decode (h : bytes.length = s.width.bytes) : s.encode (s.decode bytes) = bytes := by
  have hlt : ofLittleEndian bytes < s.width.modulus := by
    have := ofLittleEndian_lt bytes
    rwa [h] at this
  have hmod : s.decode bytes % (s.width.modulus : Int) = ofLittleEndian bytes := by
    simp only [decode]
    split
    · rw [Int.bmod_emod]
      exact Int.emod_eq_of_lt (by omega) (by omega)
    · exact Int.emod_eq_of_lt (by omega) (by omega)
  rw [encode, hmod, Int.toNat_natCast, ← h]
  exact littleEndian_ofLittleEndian bytes

end Scalar

namespace Layout

variable {l : Layout} {s : Scalar} {v : List Int} {bytes : List UInt8}

theorem length_encode_eq_mul (l : Layout) (v : List Int) :
    (l.encode v).length = v.length * l.elem.width.bytes := by
  induction v with
  | nil => rw [List.length_nil, Nat.zero_mul]; rfl
  | cons x v ih =>
    have hhead : (l.elem.encode x).length = l.elem.width.bytes := length_littleEndian _ _
    have hcons : l.encode (x :: v) = l.elem.encode x ++ l.encode v := List.flatMap_cons
    rw [hcons, List.length_append, hhead, ih, List.length_cons, Nat.succ_mul, Nat.add_comm]

theorem length_encode (h : v.length = l.count) : (l.encode v).length = l.size := by
  rw [length_encode_eq_mul, h]
  rfl

/-- Scalars in a row are read one after the other, each from the bytes of its width. -/
theorem decodeElems_flatMap (h : ∀ x ∈ v, s.Holds x) :
    decodeElems s v.length (v.flatMap s.encode) = v := by
  induction v with
  | nil => rfl
  | cons x v ih =>
    have hlen := s.length_encode x
    have hhead : s.decode (s.encode x) = x := Scalar.decode_encode (h x List.mem_cons_self)
    have hrest := ih fun y hy => h y (List.mem_cons_of_mem _ hy)
    rw [List.length_cons, List.flatMap_cons, decodeElems, List.take_left' hlen,
      List.drop_left' hlen, hhead, hrest]

theorem length_decodeElems (s : Scalar) (n : Nat) (bytes : List UInt8) :
    (decodeElems s n bytes).length = n := by
  induction n generalizing bytes with
  | zero => rfl
  | succ n ih => rw [decodeElems, List.length_cons, ih]

/-- The bytes of the first scalar, and those of all others. -/
theorem length_split {n : Nat} (h : bytes.length = (n + 1) * s.width.bytes) :
    (bytes.take s.width.bytes).length = s.width.bytes ∧
      (bytes.drop s.width.bytes).length = n * s.width.bytes := by
  rw [Nat.succ_mul] at h
  rw [List.length_take, List.length_drop]
  omega

theorem holds_decodeElems {n : Nat} (h : bytes.length = n * s.width.bytes) :
    ∀ x ∈ decodeElems s n bytes, s.Holds x := by
  induction n generalizing bytes with
  | zero =>
    intro x hx
    contradiction
  | succ n ih =>
    obtain ⟨hfirst, hothers⟩ := length_split h
    intro x hx
    rcases List.mem_cons.mp hx with rfl | hx
    · exact Scalar.holds_decode hfirst
    · exact ih hothers x hx

theorem flatMap_decodeElems {n : Nat} (h : bytes.length = n * s.width.bytes) :
    (decodeElems s n bytes).flatMap s.encode = bytes := by
  induction n generalizing bytes with
  | zero =>
    rw [Nat.zero_mul] at h
    exact (List.eq_nil_of_length_eq_zero h).symm
  | succ n ih =>
    obtain ⟨hfirst, hothers⟩ := length_split h
    rw [decodeElems, List.flatMap_cons, Scalar.encode_decode hfirst, ih hothers,
      List.take_append_drop]

theorem decode_encode (h : l.Holds v) : l.decode (l.encode v) = v := by
  obtain ⟨hlen, hall⟩ := h
  rw [decode, ← hlen]
  exact decodeElems_flatMap hall

theorem holds_decode (h : bytes.length = l.size) : l.Holds (l.decode bytes) :=
  ⟨length_decodeElems _ _ _, holds_decodeElems h⟩

theorem encode_decode (h : bytes.length = l.size) : l.encode (l.decode bytes) = bytes :=
  flatMap_decodeElems h

/-- Bytes of the right number belong to one value. -/
theorem encode_eq_iff (h : bytes.length = l.size) :
    l.Holds v ∧ l.encode v = bytes ↔ v = l.decode bytes := by
  constructor
  · rintro ⟨hv, rfl⟩
    exact (decode_encode hv).symm
  · rintro rfl
    exact ⟨holds_decode h, encode_decode h⟩

end Layout

end ArenaAlloc
