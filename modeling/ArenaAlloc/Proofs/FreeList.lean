import Mathlib.Data.List.Induction
import ArenaAlloc.FreeList
import ArenaAlloc.Proofs.Slots

/-! The free list seen as its spans: the search names a slot that holds its span, and carving
replaces that span by what is left of it. -/
namespace ArenaAlloc

namespace Fit

variable {size align : Nat} {entry : Nat × Span} {f g : Fit}

theorem of?_eq_some (h : of? size align entry = some f) :
    (f.slot, f.span) = entry ∧ f.padding = f.span.padding align ∧ f.span.size ≠ 0 ∧
      f.padding + size ≤ f.span.size := by
  simp only [of?] at h
  split at h
  · rename_i hfit
    obtain rfl := Option.some.inj h
    exact ⟨rfl, rfl, hfit⟩
  · contradiction

theorem tighter_ne_none (best : Option Fit) (f : Fit) : tighter best f ≠ none := by
  cases best with
  | none => exact Option.some_ne_none f
  | some b =>
    simp only [tighter]
    split <;> exact Option.some_ne_none _

theorem foldl_tighter_eq_none_iff {fs : List Fit} {best : Option Fit} :
    fs.foldl tighter best = none ↔ best = none ∧ fs = [] := by
  induction fs generalizing best with
  | nil => simp
  | cons f fs ih => simp [ih, tighter_ne_none]

/-- The fit that is kept is tighter than all before it, and no later one is tighter. -/
theorem foldl_tighter_split {fs : List Fit} (h : fs.foldl tighter none = some g) :
    ∃ pre post, fs = pre ++ g :: post ∧ (∀ f ∈ pre, g.span.size < f.span.size) ∧
      ∀ f ∈ post, g.span.size ≤ f.span.size := by
  induction fs using List.reverseRecOn generalizing g with
  | nil => contradiction
  | append_singleton fs f ih =>
    rw [List.foldl_append, List.foldl_cons, List.foldl_nil] at h
    cases hbest : fs.foldl tighter none with
    | none =>
      rw [hbest] at h
      obtain rfl := Option.some.inj h
      obtain rfl := (foldl_tighter_eq_none_iff.mp hbest).2
      exact ⟨[], [], rfl, by simp, by simp⟩
    | some b =>
      obtain ⟨pre, post, rfl, hpre, hpost⟩ := ih hbest
      rw [hbest, tighter] at h
      split at h
      · rename_i hlt
        obtain rfl := Option.some.inj h
        refine ⟨_, [], rfl, ?_, by simp⟩
        intro f' hf'
        rcases List.mem_append.mp hf' with hf' | hf'
        · exact Nat.lt_trans hlt (hpre f' hf')
        · rcases List.mem_cons.mp hf' with rfl | hf'
          · exact hlt
          · exact Nat.lt_of_lt_of_le hlt (hpost f' hf')
      · rename_i hge
        obtain rfl := Option.some.inj h
        refine ⟨pre, post ++ [f], by simp, hpre, ?_⟩
        intro f' hf'
        rcases List.mem_append.mp hf' with hf' | hf'
        · exact hpost f' hf'
        · obtain rfl := List.mem_singleton.mp hf'
          exact Nat.le_of_not_lt hge

/-- A span that holds anything at all is not empty, so its size alone decides. -/
theorem of?_eq_none_iff (hn : 0 < size) :
    of? size align entry = none ↔ entry.2.size < entry.2.padding align + size := by
  simp only [of?]
  split
  · rename_i hfit
    have hlt : ¬ entry.2.size < entry.2.padding align + size := Nat.not_lt.mpr hfit.2
    simp [hlt]
  · rename_i hshort
    have hlt : entry.2.size < entry.2.padding align + size := by omega
    simp [hlt]

end Fit

namespace FreeList

variable {l : FreeList} {f : Fit} {size align : Nat}

/-- A fit that the search found: its slot holds its span, and the request goes into that span. -/
structure Suits (l : FreeList) (size align : Nat) (f : Fit) : Prop where
  held : l.slots.get? f.slot = some f.span
  padding : f.padding = f.span.padding align
  enough : f.padding + size ≤ f.span.size

theorem filterMap_split {α β : Type} {f : α → Option β} {xs : List α} {pre post : List β} {y : β}
    (h : xs.filterMap f = pre ++ y :: post) :
    ∃ front x back, xs = front ++ x :: back ∧ front.filterMap f = pre ∧ f x = some y ∧
      back.filterMap f = post := by
  obtain ⟨front, rest, rfl, hpre, hrest⟩ := List.filterMap_eq_append_iff.mp h
  obtain ⟨skipped, x, back, rfl, hskipped, hx, hpost⟩ := List.filterMap_eq_cons_iff.mp hrest
  refine ⟨front ++ skipped, x, back, by simp, ?_, hx, hpost⟩
  rw [List.filterMap_append, hpre, List.filterMap_eq_nil_iff.mpr hskipped, List.append_nil]

/-- The entry that the search chose, and how the fits of all other entries compare with it. -/
theorem bestFit?_split (h : l.bestFit? size align = some f) :
    ∃ front entry back, l.slots.entries = front ++ entry :: back ∧
      Fit.of? size align entry = some f ∧
      (∀ e ∈ front, ∀ g, Fit.of? size align e = some g → f.span.size < g.span.size) ∧
      ∀ e ∈ back, ∀ g, Fit.of? size align e = some g → f.span.size ≤ g.span.size := by
  obtain ⟨pre, post, hfits, hpre, hpost⟩ := Fit.foldl_tighter_split h
  obtain ⟨front, entry, back, hentries, rfl, hf, rfl⟩ := filterMap_split hfits
  refine ⟨front, entry, back, hentries, hf, ?_, ?_⟩
  · intro e he g hg
    exact hpre g (List.mem_filterMap.mpr ⟨e, he, hg⟩)
  · intro e he g hg
    exact hpost g (List.mem_filterMap.mpr ⟨e, he, hg⟩)

theorem suits_of_bestFit? (h : l.bestFit? size align = some f) : l.Suits size align f := by
  obtain ⟨front, entry, back, hentries, hf, -, -⟩ := bestFit?_split h
  have hentry : entry ∈ l.slots.entries := by simp [hentries]
  obtain ⟨rfl, hpadding, _, henough⟩ := Fit.of?_eq_some hf
  exact ⟨Slots.mem_entries.mp hentry, hpadding, henough⟩

theorem bestFit?_eq_none_iff (hn : 0 < size) :
    l.bestFit? size align = none ↔ ∀ s ∈ l.spans, s.size < s.padding align + size := by
  rw [bestFit?, Fit.foldl_tighter_eq_none_iff, and_iff_right rfl, List.filterMap_eq_nil_iff, spans,
    Slots.toList, List.forall_mem_map]
  exact forall₂_congr fun _ _ => Fit.of?_eq_none_iff hn

theorem spans_insert (s : Span) : (l.insert s).spans = l.spans ++ [s] := Slots.toList_push _ _

theorem toList_tidy (s : Slots Span) : (tidy s).toList = s.toList := by
  simp only [tidy]
  split
  · exact Slots.toList_compact s
  · rfl

theorem counted_tidy {s : Slots Span} (hc : s.Counted) : (tidy s).Counted := by
  simp only [tidy]
  split
  · exact Slots.counted_compact hc
  · exact hc

theorem spans_carve_exact (hc : l.slots.Counted) (hf : l.Suits size align f)
    (he : f.padding + size = f.span.size) :
    (l.carve f size).spans = l.slots.ahead f.slot ++ l.slots.behind f.slot := by
  rw [carve, if_pos he, spans, toList_tidy, Slots.toList_erase hc hf.held]

theorem spans_carve_split (hf : l.Suits size align f) (he : f.padding + size ≠ f.span.size) :
    (l.carve f size).spans =
      l.slots.ahead f.slot ++ f.span.drop (f.padding + size) :: l.slots.behind f.slot := by
  rw [carve, if_neg he, spans, Slots.toList_set hf.held]

theorem perm_spans (hf : l.Suits size align f) :
    l.spans.Perm (f.span :: (l.slots.ahead f.slot ++ l.slots.behind f.slot)) := by
  rw [spans, Slots.toList_split hf.held]
  exact List.perm_middle

theorem counted_carve (hc : l.slots.Counted) (hf : l.Suits size align f) :
    (l.carve f size).slots.Counted := by
  simp only [carve]
  split
  · exact counted_tidy (Slots.counted_erase hc hf.held)
  · exact Slots.counted_set hc hf.held

end FreeList

end ArenaAlloc
