import ArenaAlloc.Proofs.Arena.Layout
import ArenaAlloc.Proofs.Guarded.Chain

/-! No guard is ever met: on machine words both kinds of arena do what they do on natural numbers. -/
namespace ArenaAlloc

theorem Usage.remainingGuarded_eq {u : Usage} (h : u.used ≤ u.capacity) :
    u.remainingGuarded = some u.remaining := Word.sub?_of_le h

/-- Whatever the arguments, no sum of a reachable arena or chain leaves the words, no difference lies
below zero, and no assertion fails. A chain looks at addresses and at all of its segments, so it
needs them to lie where the system puts them, before the operation and after. -/
theorem guards_unmet (k : Kernel) :
    (∀ s, Arena.createGuarded k s = some (Arena.create k s)) ∧
    (∀ a : Arena, a.Reachable →
      (∀ op : Arena.Op Block, op.Typed → a.stepGuarded k op = some (a.step k op)) ∧
      (∀ b, a.readGuarded b = some (a.read b)) ∧
      (∀ l b, a.readValueGuarded l b = some (a.readValue l b)) ∧
      (a.Placed → ∀ b, a.addressGuarded b = some (a.address b)) ∧
      (∀ b ∈ a.live.blocks, b.extentGuarded = some b.extent ∧ b.stopGuarded = some b.stop) ∧
      (∀ s ∈ a.freeList.spans, s.stopGuarded = some s.stop) ∧
      a.usageGuarded = some a.usage ∧ a.usage.remainingGuarded = some a.usage.remaining) ∧
    (∀ s, Chain.createGuarded k s = some (Chain.create k s)) ∧
    (∀ s : Chain.Ledger, s.Reachable → s.chain.Placed →
      (∀ op : Chain.Op Placement, (s.chain.step k op).state.Placed →
        s.chain.stepGuarded k op = some (s.chain.step k op)) ∧
      s.chain.usageGuarded = some s.chain.usage ∧
      s.chain.usage.remainingGuarded = some s.chain.usage.remaining) := by
  refine ⟨Arena.createGuarded_eq k, fun a ha => ?_, Chain.createGuarded_eq k, fun s hs hp => ?_⟩
  · have hsound := ha.sound
    have hbounded := ha.bounded
    have hlt : ∀ {n}, n < mappingLimit → n < Word.limit := fun h => Word.lt_limit (by omega)
    refine ⟨fun op hop => Arena.stepGuarded_eq hsound hbounded hop,
      fun b => Arena.readGuarded_eq hsound hbounded,
      fun l b => Arena.readValueGuarded_eq hsound hbounded,
      fun hp b => Arena.addressGuarded_eq hsound hbounded hp, fun b hb => ?_, fun s hs => ?_,
      Arena.usageGuarded_eq hsound hbounded, Usage.remainingGuarded_eq hsound.room⟩
    · have hstop := hlt (Arena.block_stop_lt hsound hbounded hb)
      exact ⟨Block.extentGuarded_eq (hsound.payload b hb).2 hstop, Block.stopGuarded_eq hstop⟩
    · exact Span.stopGuarded_eq (hlt (Arena.span_stop_lt hsound hbounded hs))
  · have hlaid := hs.sound.laid
    have hbounded := hs.bounded
    exact ⟨fun op hafter => Chain.stepGuarded_eq hlaid hbounded hp hafter,
      Chain.usageGuarded_eq hlaid hbounded hp,
      Usage.remainingGuarded_eq (Chain.used_le_capacity hlaid)⟩

/-- An arena with a free span between two blocks. -/
def gapped : Arena :=
  Arena.blank.run (Arena.granted [.alloc 3, .allocAligned 8, .alloc 4, .free ⟨8, 8, 5, 1⟩])

/-- A chain of a regular segment and a larger one. -/
def uneven : Chain.Ledger :=
  .run { chain := Chain.blank } (Chain.granted [.alloc 3, .alloc 5000])

theorem guards_unmet_gapped :
    gapped.stepGuarded ⟨1, true⟩ (.allocValue (.scalar false .w16) [7]) =
      some (gapped.step ⟨1, true⟩ (.allocValue (.scalar false .w16) [7])) ∧
    gapped.stepGuarded ⟨1, true⟩ (.alloc 0xFFFF_FFFF_FFFF_FFFF) =
      some (gapped.step ⟨1, true⟩ (.alloc 0xFFFF_FFFF_FFFF_FFFF)) ∧
    gapped.addressGuarded ⟨16, 4, 0, 2⟩ = some (.ok 4112) ∧
    Block.stopGuarded ⟨16, 4, 0, 2⟩ = some 20 ∧ Span.stopGuarded ⟨3, 13⟩ = some 16 ∧
    uneven.chain.stepGuarded ⟨1, true⟩ (.alloc 0xFFFF_FFFF_FFFF_FFFF) =
      some (uneven.chain.step ⟨1, true⟩ (.alloc 0xFFFF_FFFF_FFFF_FFFF)) ∧
    uneven.chain.usageGuarded =
      some { capacity := 9096, used := 5003, liveBlocks := 2, segments := 2 } := by
  obtain ⟨-, harena, -, hchain⟩ := guards_unmet ⟨1, true⟩
  obtain ⟨hstep, -, -, haddress, hblocks, hspans, -⟩ :=
    harena gapped ⟨Arena.blank, _, Arena.created_blank, rfl⟩
  have hplaced : gapped.Placed := by
    intro m hm
    have hall : ∀ m ∈ gapped.mapping, m.base + m.mapped ≤ mappingLimit := by decide
    exact hall m hm
  have htyped : (Layout.scalar false .w16).Holds [7] := by
    simp [Layout.Holds, Layout.scalar, Scalar.Holds, Width.modulus, Width.bytes]
  obtain ⟨hchainStep, husage, -⟩ := hchain uneven ⟨Chain.blank, _, Chain.created_blank, rfl⟩
    ⟨by decide, by decide⟩
  refine ⟨hstep _ htyped, hstep _ trivial, haddress hplaced _, (hblocks _ ?_).2, hspans _ ?_,
    hchainStep _ ⟨?_, ?_⟩, husage⟩
  all_goals decide

end ArenaAlloc
