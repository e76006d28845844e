import Mathlib.Algebra.Order.BigOperators.Group.List
import Mathlib.Data.List.Perm.Basic
import ArenaAlloc.Block

/-! Lists of spans that share out the bytes below a mark, each byte to exactly one span. -/
namespace ArenaAlloc

namespace Span

variable {s t : Span} {i n : Nat}

theorem contains_iff : s.contains i = true ↔ s.offset ≤ i ∧ i < s.stop := by
  simp [contains]

theorem not_contains_iff : s.contains i = false ↔ i < s.offset ∨ s.stop ≤ i := by
  rw [← Bool.not_eq_true, contains_iff]
  omega

/-- Two ranges one of which ends before the other starts. -/
def Apart (s t : Span) : Prop := s.stop ≤ t.offset ∨ t.stop ≤ s.offset

theorem Apart.symm (h : s.Apart t) : t.Apart s := Or.symm h

theorem Apart.not_contains (h : s.Apart t) (hs : s.contains i = true) : t.contains i = false := by
  have hin := contains_iff.mp hs
  apply not_contains_iff.mpr
  rcases h with h | h <;> omega

theorem stop_drop (h : n ≤ s.size) : (s.drop n).stop = s.stop := by
  simp only [drop, stop]
  omega

end Span

/-- The spans are not empty, do not overlap, and hold just the offsets below `n`. -/
structure Tiles (ss : List Span) (n : Nat) : Prop where
  nonempty : ∀ s ∈ ss, 0 < s.size
  apart : ss.Pairwise Span.Apart
  cover : ∀ i, (∃ s ∈ ss, s.contains i = true) ↔ i < n

namespace Tiles

variable {s t : Span} {ss ts : List Span} {i k n : Nat}

theorem nil : Tiles [] 0 := ⟨by simp, .nil, by simp⟩

theorem perm (h : Tiles ss n) (hp : ss.Perm ts) : Tiles ts n where
  nonempty s hs := h.nonempty s (hp.mem_iff.mpr hs)
  apart := (hp.pairwise_iff Span.Apart.symm).mp h.apart
  cover i := by simpa only [hp.mem_iff] using h.cover i

theorem contains_offset (h : Tiles ss n) (hs : s ∈ ss) : s.contains s.offset = true := by
  have := h.nonempty s hs
  rw [Span.contains_iff, Span.stop]
  omega

theorem stop_le (h : Tiles ss n) (hs : s ∈ ss) : s.stop ≤ n := by
  have hpos := h.nonempty s hs
  have hlast : s.contains (s.stop - 1) = true := by
    rw [Span.contains_iff, Span.stop]
    omega
  have := (h.cover _).mp ⟨s, hs, hlast⟩
  omega

/-- A byte tells the span that holds it. -/
theorem not_contains_of_cons (h : Tiles (s :: ss) n) (hs : s.contains i = true) (ht : t ∈ ss) :
    t.contains i = false :=
  ((List.pairwise_cons.mp h.apart).1 t ht).not_contains hs

theorem cover_tail (h : Tiles (s :: ss) n) :
    (∃ t ∈ ss, t.contains i = true) ↔ i < n ∧ s.contains i = false := by
  rw [← h.cover i]
  constructor
  · rintro ⟨t, ht, hi⟩
    refine ⟨⟨t, List.mem_cons_of_mem _ ht, hi⟩, ?_⟩
    by_contra hs
    have := h.not_contains_of_cons (by simpa using hs) ht
    simp [hi] at this
  · rintro ⟨⟨t, ht, hi⟩, hs⟩
    rcases List.mem_cons.mp ht with rfl | ht
    · simp [hi] at hs
    · exact ⟨t, ht, hi⟩

/-- A span laid at the mark raises it. -/
theorem push (h : Tiles ss n) (hk : 0 < k) : Tiles (⟨n, k⟩ :: ss) (n + k) where
  nonempty t ht := by
    rcases List.mem_cons.mp ht with rfl | ht
    · exact hk
    · exact h.nonempty t ht
  apart := List.pairwise_cons.mpr ⟨fun t ht => Or.inr (h.stop_le ht), h.apart⟩
  cover i := by
    rw [List.exists_mem_cons_iff, h.cover i, Span.contains_iff, Span.stop]
    dsimp only
    omega

/-- Taking away a span that ends at the mark lowers the mark to its start. -/
theorem pop (h : Tiles (s :: ss) n) (hs : s.stop = n) : Tiles ss s.offset where
  nonempty t ht := h.nonempty t (List.mem_cons_of_mem _ ht)
  apart := (List.pairwise_cons.mp h.apart).2
  cover i := by
    have hsize : s.offset ≤ s.stop := Nat.le_add_right _ _
    rw [h.cover_tail, Span.not_contains_iff]
    omega

/-- A span may be cut in two. -/
theorem split (h : Tiles (s :: ss) n) (hk : 0 < k) (hs : k < s.size) :
    Tiles (⟨s.offset, k⟩ :: s.drop k :: ss) n where
  nonempty t ht := by
    rcases List.mem_cons.mp ht with rfl | ht
    · exact hk
    rcases List.mem_cons.mp ht with rfl | ht
    · exact Nat.sub_pos_of_lt hs
    · exact h.nonempty t (List.mem_cons_of_mem _ ht)
  apart := by
    obtain ⟨hout, hin⟩ := List.pairwise_cons.mp h.apart
    have hfront : ∀ t ∈ ss, Span.Apart ⟨s.offset, k⟩ t := by
      intro t ht
      have hst := hout t ht
      simp only [Span.Apart, Span.stop] at hst ⊢
      omega
    have hback : ∀ t ∈ ss, (s.drop k).Apart t := by
      intro t ht
      have hst := hout t ht
      simp only [Span.Apart, Span.stop, Span.drop] at hst ⊢
      omega
    refine List.pairwise_cons.mpr ⟨fun t ht => ?_, List.pairwise_cons.mpr ⟨hback, hin⟩⟩
    rcases List.mem_cons.mp ht with rfl | ht
    · exact Or.inl (Nat.le_refl _)
    · exact hfront t ht
  cover i := by
    rw [← h.cover i, List.exists_mem_cons_iff, List.exists_mem_cons_iff, List.exists_mem_cons_iff,
      ← or_assoc]
    refine or_congr_left ?_
    simp only [Span.contains_iff, Span.stop_drop (Nat.le_of_lt hs)]
    simp only [Span.drop, Span.stop]
    omega

/-- No byte is lost and none counted twice. -/
theorem total_size (h : Tiles ss n) : Word.total (ss.map Span.size) = n := by
  -- The mark is shared out from above: the span that holds the last byte ends at the mark.
  induction hlen : ss.length generalizing ss n with
  | zero =>
    obtain rfl := List.eq_nil_of_length_eq_zero hlen
    have hzero : ¬ 0 < n := (h.cover 0).not.mp (by simp)
    exact (Nat.eq_zero_of_not_pos hzero).symm
  | succ m ih =>
    have hpos : 0 < n := by
      obtain ⟨s, hs⟩ := List.exists_mem_of_length_pos (l := ss) (by omega)
      exact Nat.lt_of_lt_of_le (Nat.add_pos_right _ (h.nonempty s hs)) (h.stop_le hs)
    obtain ⟨s, hs, hlast⟩ := (h.cover (n - 1)).mpr (by omega)
    have hstop : s.stop = n := by
      have hle := h.stop_le hs
      have hlast := Span.contains_iff.mp hlast
      omega
    obtain ⟨ts, hp⟩ : ∃ ts, ss.Perm (s :: ts) := ⟨_, List.perm_cons_erase hs⟩
    have hrest : Word.total (ts.map Span.size) = s.offset :=
      ih ((h.perm hp).pop hstop) (by have := hp.length_eq; simp at this; omega)
    have hsplit : Word.total (ss.map Span.size) = s.size + Word.total (ts.map Span.size) :=
      (hp.map Span.size).sum_nat
    rw [hsplit, hrest, Nat.add_comm]
    exact hstop

end Tiles

end ArenaAlloc
