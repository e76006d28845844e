import Mathlib.Data.List.Nodup
import Mathlib.Data.List.Pairwise
import ArenaAlloc.Block

/-! The live table as a set of blocks no two of which start at one offset. -/
namespace ArenaAlloc.LiveTable

variable {t : LiveTable} {b c : Block} {o : Nat}

/-- An offset belongs to one block at most. -/
def Keyed (t : LiveTable) : Prop := t.blocks.Pairwise fun b c => b.offset ≠ c.offset

theorem mem_of_find? (h : t.find? o = some b) : b ∈ t.blocks ∧ b.offset = o :=
  ⟨List.mem_of_find?_eq_some h, by simpa using List.find?_some h⟩

theorem mem_erase : c ∈ (t.erase o).blocks ↔ c ∈ t.blocks ∧ c.offset ≠ o := by
  simp [erase]

namespace Keyed

theorem eq_of_offset_eq (h : t.Keyed) (hb : b ∈ t.blocks) (hc : c ∈ t.blocks)
    (ho : b.offset = c.offset) : b = c := by
  by_contra hne
  have : Std.Symm fun b c : Block => b.offset ≠ c.offset := ⟨fun _ _ h => h.symm⟩
  exact h.forall hb hc hne ho

theorem find?_eq_some_iff (h : t.Keyed) :
    t.find? o = some b ↔ b ∈ t.blocks ∧ b.offset = o := by
  refine ⟨mem_of_find?, ?_⟩
  rintro ⟨hb, rfl⟩
  cases hf : t.find? b.offset with
  | none => simpa using List.find?_eq_none.mp hf b hb
  | some c =>
    obtain ⟨hc, ho⟩ := mem_of_find? hf
    rw [h.eq_of_offset_eq hc hb ho]

theorem mem_erase_iff (h : t.Keyed) (hb : b ∈ t.blocks) :
    c ∈ (t.erase b.offset).blocks ↔ c ∈ t.blocks ∧ c ≠ b := by
  rw [mem_erase]
  refine and_congr_right fun hc => not_congr ⟨h.eq_of_offset_eq hc hb, ?_⟩
  rintro rfl
  rfl

theorem perm_erase (h : t.Keyed) (hb : b ∈ t.blocks) :
    t.blocks.Perm (b :: (t.erase b.offset).blocks) := by
  have hnodup : t.blocks.Nodup := h.imp fun ho heq => ho (congrArg Block.offset heq)
  have herase : (t.erase b.offset).blocks = t.blocks.erase b := by
    rw [hnodup.erase_eq_filter]
    refine List.filter_congr fun c hc => ?_
    have := h.eq_of_offset_eq hc hb
    by_cases ho : c.offset = b.offset
    · simp [this ho]
    · have hne : c ≠ b := fun heq => ho (congrArg Block.offset heq)
      rw [bne_iff_ne.mpr ho, bne_iff_ne.mpr hne]
  rw [herase]
  exact List.perm_cons_erase hb

end Keyed

/-- An issue at a new offset drops no block. -/
theorem blocks_insert (h : ∀ c ∈ t.blocks, c.offset ≠ b.offset) :
    (t.insert b).blocks = b :: t.blocks := by
  have hall : ∀ c ∈ t.blocks, (c.offset != b.offset) = true := by
    intro c hc
    simpa using h c hc
  rw [insert, erase]
  exact congrArg (b :: ·) (List.filter_eq_self.mpr hall)

end ArenaAlloc.LiveTable
