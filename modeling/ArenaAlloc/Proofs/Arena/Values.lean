import ArenaAlloc.Proofs.Arena.Contents
import ArenaAlloc.Proofs.Arena.Request
import ArenaAlloc.Proofs.Encoding

/-! Plain values in blocks. What was stored reads back as it was after any run that spares its block,
and reads in another layout of the same size as the value with the same bytes. -/
namespace ArenaAlloc.Arena

variable {k : Kernel} {a : Arena} {b : Block} {l : Layout} {v : List Int}
  {ops : List (Kernel × Op Block)}

theorem length_payload (a : Arena) (b : Block) : (a.payload b).length = b.len := by
  rw [payload, List.length_map, List.length_range']

/-- Data as long as the payload replaces all of it. -/
theorem overlay_whole {base data : List UInt8} (h : data.length = base.length) :
    overlay b base [.wrote b 0 data] = data := by
  apply List.ext_getElem?
  intro i
  have hstored : (Effect.wrote b 0 data).stored? b i = data[i]? := if_pos ⟨rfl, Nat.zero_le i⟩
  rw [overlay, List.getElem?_mapIdx, lastStored_singleton, hstored]
  by_cases hi : i < data.length
  · rw [List.getElem?_eq_getElem hi, List.getElem?_eq_getElem (h ▸ hi)]
    rfl
  · have hbase : base[i]? = none := List.getElem?_eq_none (by omega)
    rw [hbase, List.getElem?_eq_none (by omega)]
    rfl

theorem stored_allocValue (hs : a.Sound) (hb : (a.allocValue k l v).result = .ok b)
    (hv : v.length = l.count) :
    b.len = l.size ∧ b ∈ (a.allocValue k l v).state.live.blocks ∧
      (a.allocValue k l v).state.payload b = l.encode v := by
  obtain ⟨halloc, -⟩ := allocValue_eq_ok hb
  obtain ⟨m, ⟨c, hc, hissued⟩ | ⟨f, hf, -⟩⟩ := alloc_takes k a l.size
  · obtain rfl : c = b := Except.ok.inj (hc.symm.trans halloc)
    obtain ⟨d, hvalue, hwrote⟩ := allocValue_takes hs halloc hissued v
    have hsound := sound_takes (hs.align m) hissued
    have hlive := mem_of_issued hissued
    have hlen := len_of_alloc halloc
    have hdata : (l.encode v).length = ((a.alloc k l.size).state.payload c).length := by
      rw [length_payload, hlen]
      exact Layout.length_encode hv
    rw [hvalue]
    refine ⟨hlen, ?_, ?_⟩
    · exact (mem_live_takes hsound hwrote).mpr (Or.inr ⟨hlive, by simp, by simp⟩)
    · rw [payload_takes hsound hlive hwrote (by simp) (by simp)]
      exact overlay_whole hdata
  · rw [hf] at halloc
    contradiction

/-- What is not meant for a block leaves it alive and its bytes as they are. -/
theorem kept_run (hs : a.Sound) (hb : b ∈ a.live.blocks) (hops : ∀ o ∈ ops, o.2.Spares b) :
    b ∈ (a.run ops).live.blocks ∧ (a.run ops).payload b = a.payload b := by
  induction ops generalizing a with
  | nil => exact ⟨hb, rfl⟩
  | cons o ops ih =>
    have hspared := not_touches_of_spares hs hb o.1 (hops o List.mem_cons_self)
    obtain ⟨hlive, hpayload⟩ := kept_step hs hb o.1 o.2 (fun hm => hspared _ hm rfl)
      (fun hm => hspared _ hm trivial)
    rw [overlay_of_not_touches hspared] at hpayload
    obtain ⟨hlast, hkept⟩ := ih (sound_step hs o.1 o.2) hlive
      fun p hp => hops p (List.mem_cons_of_mem _ hp)
    exact ⟨hlast, hkept.trans hpayload⟩

theorem readValue_live (hs : a.Sound) (hb : b ∈ a.live.blocks) (u : Layout) :
    a.readValue u b = if b.len = u.size then .ok (u.decode (a.payload b))
      else .error (.sizeMismatch b.offset b.len u.size) := by
  simp only [readValue, read_live hs hb, length_payload]

/-- A value reads back as it was stored, whatever a run does that spares its block. In any other
layout the size has to agree, and then what is read is the one value with the same bytes: decoding
and encoding undo each other. -/
theorem stored_value_kept (h : a.Reachable) (hv : l.Holds v)
    (hb : (a.allocValue k l v).result = .ok b) (hops : ∀ o ∈ ops, o.2.Spares b) :
    ((a.allocValue k l v).state.run ops).readValue l b = .ok v ∧
    ∀ u : Layout,
      (((a.allocValue k l v).state.run ops).readValue u b =
        .error (.sizeMismatch b.offset b.len u.size) ↔ u.size ≠ l.size) ∧
      (u.size = l.size →
        ∃ w, ((a.allocValue k l v).state.run ops).readValue u b = .ok w ∧
          ∀ x, u.Holds x ∧ u.encode x = l.encode v ↔ x = w) ∧
      (∀ x, u.Holds x → u.decode (u.encode x) = x) ∧
      ∀ bytes, bytes.length = u.size →
        u.Holds (u.decode bytes) ∧ u.encode (u.decode bytes) = bytes := by
  obtain ⟨hlen, hlive, hstored⟩ := stored_allocValue h.sound hb hv.1
  have hsound : (a.allocValue k l v).state.Sound := sound_step h.sound k (.allocValue l v)
  obtain ⟨hlast, hkept⟩ := kept_run hsound hlive hops
  have hread : ∀ u : Layout, ((a.allocValue k l v).state.run ops).readValue u b =
      if l.size = u.size then .ok (u.decode (l.encode v))
      else .error (.sizeMismatch b.offset b.len u.size) := by
    intro u
    rw [readValue_live (sound_run hsound ops) hlast u, hkept, hstored, hlen]
  have hbytes : (l.encode v).length = l.size := Layout.length_encode hv.1
  refine ⟨?_, ?_⟩
  · rw [hread l, if_pos rfl, Layout.decode_encode hv]
  · intro u
    refine ⟨?_, ?_, fun _ hx => Layout.decode_encode hx,
      fun _ hn => ⟨Layout.holds_decode hn, Layout.encode_decode hn⟩⟩
    · rw [hread u]
      constructor
      · intro hmismatch hsize
        rw [if_pos hsize.symm] at hmismatch
        contradiction
      · intro hne
        exact if_neg (Ne.symm hne)
    · intro hsize
      refine ⟨_, (hread u).trans (if_pos hsize.symm), ?_⟩
      intro x
      exact Layout.encode_eq_iff (hbytes.trans hsize.symm)

/-- Storage moves, and the first block is released, its place issued again and written. -/
def jostling : List (Kernel × Op Block) :=
  [.alloc 9000, .free ⟨0, 3, 0, 0⟩, .alloc 2, .write ⟨0, 2, 0, 3⟩ 0 [7, 7]].map
    (Prod.mk ⟨2, false⟩)

/-- A negative value behind another block, after all that. -/
def jostled : Arena :=
  ((blank.run (granted [.alloc 3])).allocValue ⟨1, true⟩ (.scalar true .w32) [-2]).state.run
    jostling

theorem jostled_value :
    jostled.readValue (.scalar true .w32) ⟨3, 4, 0, 1⟩ = .ok [-2] ∧
    jostled.readValue (.scalar false .w64) ⟨3, 4, 0, 1⟩ = .error (.sizeMismatch 3 4 8) ∧
    jostled.readValue ⟨⟨false, .w16⟩, 2⟩ ⟨3, 4, 0, 1⟩ = .ok [0xfffe, 0xffff] := by
  have hreachable : (blank.run (granted [.alloc 3])).Reachable := ⟨blank, _, created_blank, rfl⟩
  have hv : (Layout.scalar true .w32).Holds [-2] := by
    simp [Layout.Holds, Layout.scalar, Scalar.Holds, Width.modulus, Width.bytes]
  have hresult : ((blank.run (granted [.alloc 3])).allocValue ⟨1, true⟩ (.scalar true .w32)
      [-2]).result = .ok ⟨3, 4, 0, 1⟩ := rfl
  have hspared : ∀ o ∈ jostling, o.2.Spares ⟨3, 4, 0, 1⟩ := by simp [jostling, Op.Spares]
  obtain ⟨hsame, hother⟩ := stored_value_kept hreachable hv hresult hspared
  obtain ⟨-, hpair, -⟩ := hother ⟨⟨false, .w16⟩, 2⟩
  obtain ⟨w, hw, hbytes⟩ := hpair (by decide)
  have hholds : Layout.Holds ⟨⟨false, .w16⟩, 2⟩ [0xfffe, 0xffff] := by
    simp [Layout.Holds, Scalar.Holds, Width.modulus, Width.bytes]
  obtain rfl := (hbytes [0xfffe, 0xffff]).mp ⟨hholds, by decide⟩
  exact ⟨hsame, ((hother (.scalar false .w64)).1).mpr (by decide), hw⟩

end ArenaAlloc.Arena
