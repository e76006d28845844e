import ArenaAlloc.Proofs.FreeList
import ArenaAlloc.Proofs.Mapping
import ArenaAlloc.Proofs.Tiling

/-! What it takes for the guarded operations on the parts of an arena to have the outcome of the
plain ones. -/
namespace ArenaAlloc

theorem ensure_of {p : Prop} [Decidable p] (h : p) : ensure p = some () := if_pos h

theorem mapM_eq_some {α β : Type} {f : α → Option β} {g : α → β} {xs : List α}
    (h : ∀ x ∈ xs, f x = some (g x)) : xs.mapM f = some (xs.map g) := by
  induction xs with
  | nil => rfl
  | cons x xs ih =>
    have hrest := ih fun y hy => h y (List.mem_cons_of_mem _ hy)
    rw [List.mapM_cons, h x List.mem_cons_self, hrest]
    rfl

theorem anyM_eq_some {α : Type} {f : α → Option Bool} {g : α → Bool} {xs : List α}
    (h : ∀ x ∈ xs, f x = some (g x)) : xs.anyM f = some (xs.any g) := by
  induction xs with
  | nil => rfl
  | cons x xs ih =>
    have hrest := ih fun y hy => h y (List.mem_cons_of_mem _ hy)
    rw [List.anyM, h x List.mem_cons_self, List.any_cons, hrest]
    cases g x <;> rfl

namespace Word

variable {x y a : Nat} {xs : List Nat}

/-- Whatever lies no more than a page above the limit for mappings is a word. -/
theorem lt_limit {n : Nat} (h : n ≤ mappingLimit + pageSize) : n < limit :=
  Nat.lt_of_le_of_lt h (by decide)

theorem add?_of_lt (h : x + y < limit) : add? x y = some (x + y) := if_pos h

theorem sub?_of_le (h : y ≤ x) : sub? x y = some (x - y) := if_pos h

/-- No partial sum exceeds the total. -/
theorem totalGuarded_eq (h : total xs < limit) : totalGuarded xs = some (total xs) := by
  have hfrom : ∀ n, n + total xs < limit → xs.foldlM add? n = some (n + total xs) := by
    induction xs with
    | nil => exact fun _ _ => rfl
    | cons x xs ih =>
      intro n hn
      have hsum : n + x + total xs = n + total (x :: xs) := by
        rw [total, total, List.sum_cons, Nat.add_assoc]
      rw [List.foldlM_cons, add?_of_lt (by omega), ← hsum]
      exact ih (by omega) _ (hsum ▸ hn)
  rw [totalGuarded, hfrom 0 (by omega), Nat.zero_add]

theorem roundUpGuarded_eq_ite (ha : 0 < a) :
    roundUpGuarded x a = if x + a < limit then some (roundUp x a) else none := by
  by_cases hlt : x + a < limit
  · have hunder : x + a - 1 = x + (a - 1) := Nat.add_sub_assoc ha x
    rw [if_pos hlt]
    simp only [roundUpGuarded, add?_of_lt hlt, sub?_of_le (Nat.le_add_left_of_le ha : 1 ≤ x + a),
      sub?_of_le ha, Option.bind_eq_bind, Option.bind_some, hunder]
    rfl
  · rw [if_neg hlt, roundUpGuarded, add?, if_neg hlt]
    rfl

/-- The padding is the difference that follows the rounding. -/
theorem paddingGuarded_eq_bind : paddingGuarded x a = (roundUpGuarded x a).bind (sub? · x) := by
  simp only [paddingGuarded, roundUpGuarded, Option.bind_eq_bind, Option.bind_assoc,
    Option.pure_def, Option.bind_some]

theorem paddingGuarded_eq (ha : 0 < a) (h : x + a < limit) :
    paddingGuarded x a = some (padding x a) := by
  rw [paddingGuarded_eq_bind, roundUpGuarded_eq_ite ha, if_pos h]
  exact sub?_of_le (le_roundUp x a)

/-- Too close to the limit, there is no multiple left to go to. -/
example : paddingGuarded (limit - 1) 8 = none := by decide

theorem roundUpGuarded?_eq (ha : 0 < a) : roundUpGuarded? x a = some (roundUp? x a) := by
  rw [roundUpGuarded?, sub?_of_le ha]
  rfl

end Word

namespace Span

variable {s : Span} {i : Nat}

theorem stopGuarded_eq (h : s.stop < Word.limit) : s.stopGuarded = some s.stop :=
  Word.add?_of_lt h

theorem containsGuarded_eq (h : s.stop < Word.limit) :
    s.containsGuarded i = some (s.contains i) := by
  simp only [containsGuarded, contains, stopGuarded_eq h]
  split
  · rename_i hle
    simp [hle]
  · rename_i hgt
    simp [hgt]

end Span

namespace Slots

variable {α : Type} {s : Slots α} {i : Nat} {x : α}

theorem pushGuarded_eq (h : s.live + 1 < Word.limit) :
    s.pushGuarded x = some (s.push x, s.nextIndex) := by
  have hcells : 1 ≤ (s.cells ++ [some x]).length := by simp
  have hindex : (s.cells ++ [some x]).length - 1 = s.cells.length := by simp
  simp only [pushGuarded, Word.add?_of_lt h, Word.sub?_of_le hcells, hindex]
  rfl

theorem eraseGuarded_eq (hc : s.Counted) (h : s.get? i = some x) :
    s.eraseGuarded i = some (s.erase i) := by
  have hlive : 1 ≤ s.live := by
    rw [hc, length_toList h]
    exact Nat.le_add_left _ _
  simp only [eraseGuarded, erase, h, Word.sub?_of_le hlive]
  rfl

theorem tombstonesGuarded_eq (hc : s.Counted) : s.tombstonesGuarded = some s.tombstones :=
  Word.sub?_of_le hc.live_le

end Slots

namespace Fit

variable {size align : Nat} {entry : Nat × Span}

theorem ofGuarded?_eq (ha : 0 < align) (hp : entry.2.offset + align < Word.limit)
    (hs : entry.2.size < Word.limit) :
    ofGuarded? size align entry = some (of? size align entry) := by
  have hpadding : Word.paddingGuarded entry.2.offset align = some (entry.2.padding align) :=
    Word.paddingGuarded_eq ha hp
  simp only [ofGuarded?, of?, hpadding, Option.map_some]
  split
  · rename_i hempty
    rw [if_neg (by simp [hempty])]
  · rename_i hnonempty
    simp only [Word.add?]
    split
    · simp only [Option.bind_some, and_iff_right hnonempty]
    · rw [if_neg (by omega)]
      rfl

end Fit

namespace FreeList

variable {l : FreeList} {f : Fit} {s : Span} {size align i : Nat}

theorem insertGuarded_eq (hs : 0 < s.size) (h : l.length + 1 < Word.limit) :
    l.insertGuarded s = some (l.insert s) := by
  simp only [insertGuarded, ensure_of (Nat.ne_of_gt hs), Slots.pushGuarded_eq h]
  rfl

theorem coversGuarded_eq (h : ∀ s ∈ l.spans, s.stop < Word.limit) :
    l.coversGuarded i = some (l.covers i) :=
  anyM_eq_some fun s hs => Span.containsGuarded_eq (h s hs)

theorem bestFitGuarded?_eq (ha : 0 < align) (h : ∀ s ∈ l.spans, s.stop + align < Word.limit) :
    l.bestFitGuarded? size align = some (l.bestFit? size align) := by
  have hall : ∀ entry ∈ l.slots.entries,
      Fit.ofGuarded? size align entry = some (Fit.of? size align entry) := by
    intro entry hentry
    have hstop := h entry.2 (List.mem_map_of_mem hentry)
    simp only [Span.stop] at hstop
    exact Fit.ofGuarded?_eq ha (by omega) (by omega)
  rw [bestFitGuarded?, mapM_eq_some hall, bestFit?, Option.map_some, List.filterMap_map]
  rfl

theorem carveGuarded_eq (hc : l.slots.Counted) (hf : l.Suits size align f)
    (hs : f.span.stop < Word.limit) : l.carveGuarded f size = some (f.start, l.carve f size) := by
  have henough := hf.enough
  simp only [Span.stop] at hs
  have hconsumed : f.padding + size < Word.limit := by omega
  have hstart : f.span.offset + f.padding < Word.limit := by omega
  simp only [carveGuarded, carve, Word.add?_of_lt hconsumed, Word.add?_of_lt hstart,
    ensure_of henough, Option.bind_eq_bind, Option.bind_some]
  split
  · have htidy := Slots.tombstonesGuarded_eq (Slots.counted_erase hc hf.held)
    rw [Slots.eraseGuarded_eq hc hf.held, Option.bind_some, tidyGuarded, htidy]
    rfl
  · rw [Word.add?_of_lt (by omega), Word.sub?_of_le henough]
    rfl

end FreeList

namespace Mapping

variable {k : Kernel} {m m' : Mapping} {capacity used n start len : Nat} {bytes : Bytes}

/-- Whole pages that hold the capacity, and not too many of them. -/
structure Bounded (m : Mapping) : Prop where
  held : m.capacity ≤ m.mapped
  below : m.mapped < mappingLimit

theorem Bounded.capacity_lt (h : m.Bounded) : m.capacity < mappingLimit :=
  Nat.lt_of_le_of_lt h.held h.below

theorem bounded_of_lengthFor (h : lengthFor capacity = .ok n) (page : Nat) (bytes : Bytes) :
    Bounded { page, capacity, mapped := n, bytes } := by
  obtain ⟨rfl, hlt⟩ := lengthFor_eq_ok h
  exact ⟨Word.le_roundUp _ _, hlt⟩

theorem bounded_of_create (h : create k capacity = .ok m) : m.Bounded := by
  obtain ⟨n, hn, -, rfl⟩ := create_eq_ok h
  exact bounded_of_lengthFor hn _ _

theorem Grown.bounded (h : Grown k m capacity used m') (hm : m.Bounded) : m'.Bounded := by
  cases h with
  | enough => exact hm
  | slack _ hle => exact ⟨hle, hm.below⟩
  | extended _ _ hn | moved _ _ hn => exact bounded_of_lengthFor hn _ _

theorem requestGuarded_eq (hc : 0 < capacity) :
    requestGuarded k capacity (Word.roundUp capacity pageSize) bytes =
      some (if Word.roundUp capacity pageSize < mappingLimit then
        fresh k capacity (Word.roundUp capacity pageSize) bytes
      else .error (.allocationFailed capacity)) := by
  have hpos : Word.roundUp capacity pageSize ≠ 0 :=
    Nat.ne_of_gt (Nat.lt_of_lt_of_le hc (Word.le_roundUp _ _))
  have hpages : Word.roundUp capacity pageSize % pageSize = 0 :=
    Nat.mod_eq_zero_of_dvd (Word.dvd_roundUp capacity 12)
  rw [requestGuarded, ensure_of ⟨hpos, hpages⟩]
  rfl

theorem createGuarded_eq (hc : 0 < capacity) :
    createGuarded k capacity = some (create k capacity) := by
  simp only [createGuarded, ensure_of hc, Word.roundUpGuarded?_eq (show 0 < pageSize by decide),
    Option.bind_eq_bind, Option.bind_some, Word.roundUp?_page, create]
  unfold lengthFor
  rw [Word.roundUp?_page]
  by_cases hword : Word.limit ≤ Word.roundUp capacity pageSize
  · simp only [if_pos hword]
    rfl
  · simp only [if_neg hword, requestGuarded_eq hc]
    by_cases hlt : Word.roundUp capacity pageSize < mappingLimit
    · simp only [if_pos hlt]
      rfl
    · simp only [if_neg hlt]
      rfl

theorem growGuarded_eq (hu : used ≤ m.capacity) :
    m.growGuarded k capacity used = some (m.grow k capacity used) := by
  simp only [growGuarded, ensure_of hu, Word.roundUpGuarded?_eq (show 0 < pageSize by decide),
    Option.bind_eq_bind, Option.bind_some, grow]
  split
  · rfl
  split
  · rfl
  rename_i hcapacity _
  unfold lengthFor
  rw [Word.roundUp?_page]
  by_cases hword : Word.limit ≤ Word.roundUp capacity pageSize
  · simp only [if_pos hword]
    rfl
  · simp only [if_neg hword]
    rw [requestGuarded_eq (by omega)]
    by_cases hlt : Word.roundUp capacity pageSize < mappingLimit
    · simp only [hlt, true_and, if_true, Except.bind]
      split <;> rfl
    · simp only [hlt, false_and, if_false]
      rfl

theorem borrowGuarded_eq (hm : m.Bounded) (h : start + len ≤ m.capacity) :
    m.borrowGuarded start len = some () := by
  have hcapacity := hm.capacity_lt
  have hword : start + len < Word.limit := Word.lt_limit (by omega)
  simp only [borrowGuarded, Word.add?_of_lt hword, Option.bind_eq_bind, Option.bind_some,
    ensure_of h]

theorem zeroGuarded_eq (hm : m.Bounded) (h : start + len ≤ m.capacity) :
    m.zeroGuarded start len = some (m.zero start len) := by
  rw [zeroGuarded, borrowGuarded_eq hm h]
  rfl

end Mapping

end ArenaAlloc
