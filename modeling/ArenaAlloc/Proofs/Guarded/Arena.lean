import ArenaAlloc.Proofs.Arena.History
import ArenaAlloc.Proofs.Encoding
import ArenaAlloc.Proofs.Guarded.Storage

/-! In a reachable state no guard of an arena is ever met: storage is shorter than the limit for
mappings, and all that is live or free lies below the high-water mark. -/
namespace ArenaAlloc

theorem Tiles.length_le {ss : List Span} {n : Nat} (h : Tiles ss n) : ss.length ≤ n := by
  rw [← h.total_size, ← List.length_map Span.size]
  exact List.length_le_sum_of_one_le _ (List.forall_mem_map.mpr h.nonempty)

namespace Block

variable {b : Block}

theorem stopGuarded_eq (h : b.stop < Word.limit) : b.stopGuarded = some b.stop :=
  Word.add?_of_lt h

theorem extentGuarded_eq (hp : b.padding ≤ b.offset) (h : b.stop < Word.limit) :
    b.extentGuarded = some b.extent := by
  have hsize : b.padding + b.len < Word.limit := by
    simp only [stop] at h
    omega
  rw [extentGuarded, Word.sub?_of_le hp, Word.add?_of_lt hsize]
  rfl

end Block

namespace Arena

/-- A value has as many scalars as its layout. -/
def Op.Typed {β : Type} : Op β → Prop
  | .allocValue l v => l.Holds v
  | _ => True

variable {k : Kernel} {a a' : Arena} {b : Block} {e : Effect} {s : Span} {m : Mapping} {l : Layout}
  {v : List Int} {size needed : Nat}

/-- Storage is of a length that the system grants. -/
def Bounded (a : Arena) : Prop := ∀ m, a.mapping = some m → m.Bounded

/-- Storage lies where the system puts it. -/
def Placed (a : Arena) : Prop := ∀ m, a.mapping = some m → m.base + m.mapped ≤ mappingLimit

theorem Bounded.capacity_lt (hb : a.Bounded) : a.capacity < mappingLimit := by
  cases hm : a.mapping with
  | none =>
    rw [capacity_of_unmapped hm]
    decide
  | some m =>
    rw [capacity_of_mapped hm]
    exact (hb m hm).capacity_lt

theorem Room.bounded (h : a.Room k needed m) (hb : a.Bounded) : m.Bounded := by
  cases h with
  | spare hm => exact hb m hm
  | grown hm _ _ hg => exact hg.bounded (hb _ hm)
  | recreated _ _ _ hc => exact Mapping.bounded_of_create hc

theorem bounded_scrub (hb : a.Bounded) (h : a.scrub b = some m) : m.Bounded := by
  simp only [scrub] at h
  split at h
  · obtain ⟨m₀, hm₀, rfl⟩ := Option.map_eq_some_iff.mp h
    exact ⟨(hb m₀ hm₀).held, (hb m₀ hm₀).below⟩
  · exact hb m h

theorem bounded_takes (hb : a.Bounded) (h : Takes k a e a') : a'.Bounded := by
  intro m' hm'
  cases h with
  | reuse | reset => exact hb m' hm'
  | extend _ _ hroom =>
    obtain rfl := Option.some.inj hm'
    exact hroom.bounded hb
  | write _ hm =>
    obtain rfl := Option.some.inj hm'
    exact ⟨(hb _ hm).held, (hb _ hm).below⟩
  | retract | release => exact bounded_scrub hb hm'
  | teardown hm => simp [teardown, hm] at hm'

theorem Created.bounded (h : a.Created) : a.Bounded := by
  obtain ⟨k, m, s, hm, rfl⟩ := h.eq
  intro m' hm'
  obtain rfl := Option.some.inj hm'
  exact Mapping.bounded_of_create hm

theorem Reachable.bounded (h : a.Reachable) : a.Bounded :=
  h.keeps Created.bounded (fun _ hb => hb) bounded_takes

theorem used_lt (hs : a.Sound) (hb : a.Bounded) : a.used < mappingLimit :=
  Nat.lt_of_le_of_lt hs.room hb.capacity_lt

theorem span_stop_lt (hs : a.Sound) (hb : a.Bounded) (h : s ∈ a.freeList.spans) :
    s.stop < mappingLimit :=
  Nat.lt_of_le_of_lt (hs.tiled.stop_le (List.mem_append_right _ h)) (used_lt hs hb)

theorem block_stop_lt (hs : a.Sound) (hb : a.Bounded) (h : b ∈ a.live.blocks) :
    b.stop < mappingLimit :=
  Nat.lt_of_le_of_lt (hs.stop_le_used h) (used_lt hs hb)

theorem boundary_bounds (aligned : Bool) :
    0 < Alignment.boundary aligned ∧ Alignment.boundary aligned ≤ pageSize := by
  cases aligned <;> decide

theorem createGuarded_eq (k : Kernel) (s : Settings) : createGuarded k s = some (create k s) := by
  cases hv : s.validate with
  | error f =>
    simp only [createGuarded, create, hv]
    rfl
  | ok =>
    simp only [createGuarded, create, hv, Mapping.createGuarded_eq s.effectiveInitial_pos,
      Option.map_some]
    cases Mapping.create k s.effectiveInitial <;> rfl

theorem makeRoomGuarded_eq (hroom : a.used ≤ a.capacity) :
    a.makeRoomGuarded k needed = some (a.makeRoom k needed) := by
  simp only [makeRoomGuarded, makeRoom, Word.sub?_of_le hroom, Option.bind_eq_bind,
    Option.bind_some]
  split
  · rfl
  split
  · rfl
  cases hm : a.mapping with
  | some m =>
    have hused : a.used ≤ m.capacity := capacity_of_mapped hm ▸ hroom
    dsimp only
    rw [Mapping.growGuarded_eq hused]
    rfl
  | none =>
    have hpos := Nat.lt_of_lt_of_le a.settings.effectiveInitial_pos
      (Nat.le_max_right (2 * a.capacity + needed) _)
    dsimp only
    rw [Mapping.createGuarded_eq hpos]
    rfl

/-- A mark above the capacity, which no run leads to, meets a guard. -/
example : makeRoomGuarded ⟨1, true⟩ { mapping := none, used := 1, settings := {} } 1 = none := rfl

theorem extendGuarded_eq (hs : a.Sound) (hb : a.Bounded) (hn : 0 < size) (aligned : Bool) :
    a.extendGuarded k size (Alignment.boundary aligned) =
      some (a.extend k size (Alignment.boundary aligned)) := by
  obtain ⟨hpos, hle⟩ := boundary_bounds aligned
  have hused := used_lt hs hb
  have hword : a.used + Alignment.boundary aligned < Word.limit := Word.lt_limit (by omega)
  simp only [extendGuarded, extend, Word.paddingGuarded_eq hpos hword, makeRoomGuarded_eq hs.room,
    Option.bind_eq_bind, Option.bind_some]
  generalize Word.padding a.used (Alignment.boundary aligned) = padding
  by_cases hneeded : padding + size < Word.limit
  · rw [Word.add?_of_lt hneeded, if_neg (Nat.not_le_of_lt hneeded)]
    dsimp only
    cases hr : a.makeRoom k (padding + size) with
    | error f => rfl
    | ok r =>
      obtain ⟨a', events⟩ := r
      obtain ⟨m, rfl, hm⟩ := room_of_makeRoom (Nat.add_pos_right _ hn) hr
      have hfits := hm.used_add_le hs.room
      have hlt := (hm.bounded hb).capacity_lt
      dsimp only
      rw [Word.add?_of_lt (Word.lt_limit (by omega)), Option.bind_some,
        Word.add?_of_lt (Word.lt_limit (by omega))]
      rfl
  · rw [Word.add?, if_neg hneeded, if_pos (Nat.le_of_not_lt hneeded)]
    rfl

theorem fitGuarded?_eq (hs : a.Sound) (hb : a.Bounded) (aligned : Bool) :
    a.fitGuarded? size (Alignment.boundary aligned) =
      some (a.freeList.bestFit? size (Alignment.boundary aligned)) := by
  simp only [fitGuarded?]
  split
  · rename_i hempty
    have hentries : a.freeList.slots.entries = [] :=
      List.map_eq_nil_iff.mp (List.eq_nil_of_length_eq_zero (hs.counted.symm.trans hempty))
    rw [FreeList.bestFit?, hentries]
    rfl
  · obtain ⟨hpos, hle⟩ := boundary_bounds aligned
    refine FreeList.bestFitGuarded?_eq hpos fun s hmem => ?_
    have hstop := span_stop_lt hs hb hmem
    exact Word.lt_limit (by omega)

theorem placeGuarded_eq (hs : a.Sound) (hb : a.Bounded) (hn : 0 < size) (aligned : Bool) :
    a.placeGuarded k size (Alignment.boundary aligned) =
      some (a.place k size (Alignment.boundary aligned)) := by
  simp only [placeGuarded, place, fitGuarded?_eq hs hb, Option.bind_eq_bind, Option.bind_some]
  cases hf : a.freeList.bestFit? size (Alignment.boundary aligned) with
  | none => exact extendGuarded_eq hs hb hn aligned
  | some f =>
    have hsuits := FreeList.suits_of_bestFit? hf
    have hmem : f.span ∈ a.freeList.spans :=
      (FreeList.perm_spans hsuits).mem_iff.mpr List.mem_cons_self
    have hstop := span_stop_lt hs hb hmem
    dsimp only
    rw [FreeList.carveGuarded_eq hs.counted hsuits (Word.lt_limit (by omega))]
    rfl

theorem allocGuarded_eq (hs : a.Sound) (hb : a.Bounded) :
    a.allocGuarded k size = some (a.alloc k size) := by
  simp only [allocGuarded, alloc]
  split
  · rfl
  · rename_i hn
    exact placeGuarded_eq (a := { a with alignment := a.alignment.spend }) (hs.align _) hb
      (Nat.pos_of_ne_zero hn) _

theorem allocAlignedGuarded_eq (hs : a.Sound) (hb : a.Bounded) :
    a.allocAlignedGuarded k size = some (a.allocAligned k size) := by
  simp only [allocAlignedGuarded, allocAligned]
  split
  · rfl
  · rename_i hn
    exact placeGuarded_eq hs hb (Nat.pos_of_ne_zero hn) _

theorem storageGuarded_eq (hs : a.Sound) (hb : a.Bounded) :
    a.storageGuarded b = some (a.storage b) := by
  cases hstorage : a.storage b with
  | error f => simp only [storageGuarded, hstorage]
  | ok m =>
    obtain ⟨hv, hm⟩ := storage_eq_ok_iff.mp hstorage
    have hfits : b.offset + b.len ≤ m.capacity :=
      Nat.le_trans (hs.stop_le_used (hs.verify_iff.mp hv)) (capacity_of_mapped hm ▸ hs.room)
    simp only [storageGuarded, hstorage, Mapping.borrowGuarded_eq (hb m hm) hfits, Option.map_some]

theorem readGuarded_eq (hs : a.Sound) (hb : a.Bounded) : a.readGuarded b = some (a.read b) := by
  rw [readGuarded, storageGuarded_eq hs hb]
  rfl

theorem writeGuarded_eq (hs : a.Sound) (hb : a.Bounded) (start : Nat) (data : List UInt8) :
    a.writeGuarded b start data = some (a.write b start data) := by
  rw [writeGuarded, storageGuarded_eq hs hb]
  rfl

theorem readValueGuarded_eq (hs : a.Sound) (hb : a.Bounded) :
    a.readValueGuarded l b = some (a.readValue l b) := by
  simp only [readValueGuarded, readValue, readGuarded_eq hs hb, Option.bind_eq_bind,
    Option.bind_some]
  cases a.read b with
  | error f => rfl
  | ok bytes =>
    dsimp only
    split
    · rename_i hlen
      rw [ensure_of hlen]
      rfl
    · rfl

theorem addressGuarded_eq (hs : a.Sound) (hb : a.Bounded) (hp : a.Placed) :
    a.addressGuarded b = some (a.address b) := by
  cases hstorage : a.storage b with
  | error f => simp only [addressGuarded, address, hstorage, Except.map]
  | ok m =>
    obtain ⟨hv, hm⟩ := storage_eq_ok_iff.mp hstorage
    have hstop := hs.stop_le_used (hs.verify_iff.mp hv)
    have hroom := capacity_of_mapped hm ▸ hs.room
    have hheld := (hb m hm).held
    have hplaced := hp m hm
    simp only [Block.stop] at hstop
    simp only [addressGuarded, address, hstorage, Except.map]
    rw [Word.add?_of_lt (Word.lt_limit (by omega))]
    rfl

theorem allocValueGuarded_eq (hs : a.Sound) (hb : a.Bounded) (hv : v.length = l.count) :
    a.allocValueGuarded k l v = some (a.allocValue k l v) := by
  simp only [allocValueGuarded, allocValue, allocGuarded_eq hs hb, Option.bind_eq_bind,
    Option.bind_some]
  cases hr : (a.alloc k l.size).result with
  | error f => rfl
  | ok b =>
    obtain ⟨m, ⟨b', hr', ht⟩ | ⟨f, hf, -⟩⟩ := alloc_takes k a l.size
    · have hs' := sound_takes (hs.align m) ht
      have hb' := bounded_takes (a := { a with alignment := m }) hb ht
      have hlen : (l.encode v).length = b.len :=
        (Layout.length_encode hv).trans (len_of_alloc hr).symm
      dsimp only
      rw [writeGuarded_eq hs' hb', Option.bind_some]
      cases (a.alloc k l.size).state.write b 0 (l.encode v) with
      | error f => rfl
      | ok a' =>
        dsimp only
        rw [ensure_of hlen]
        rfl
    · rw [hr] at hf
      cases hf

theorem coversGuarded_eq (hs : a.Sound) (hb : a.Bounded) (i : Nat) :
    a.freeList.coversGuarded i = some (a.freeList.covers i) :=
  FreeList.coversGuarded_eq fun _ hmem =>
    Word.lt_limit (Nat.le_add_right_of_le (Nat.le_of_lt (span_stop_lt hs hb hmem)))

theorem refusalGuarded_eq (hs : a.Sound) (hb : a.Bounded) (f : Fault) :
    a.refusalGuarded b f = some (a.refusal b f) := by
  have hreleased : a.wasReleasedGuarded b = some (a.wasReleased b) := by
    simp only [wasReleasedGuarded, wasReleased, coversGuarded_eq hs hb]
    by_cases hlt : b.offset < a.used
    · simp [hlt]
    · simp [hlt]
  cases f with
  | invalidBlock o n => simp only [refusalGuarded, hreleased, Option.map_some, refusal]
  | _ => rfl

theorem scrubGuarded_eq (hs : a.Sound) (hb : a.Bounded) (h : b ∈ a.live.blocks) :
    a.scrubGuarded b.extent = some (a.scrub b) := by
  obtain ⟨m, hm⟩ := hs.mapping_of_mem h
  have hfits : b.extent.offset + b.extent.size ≤ m.capacity :=
    Nat.le_trans (hs.tiled.stop_le (Sound.extent_mem h)) (capacity_of_mapped hm ▸ hs.room)
  cases hz : a.settings.zeroOnFree with
  | false => simp only [scrubGuarded, scrub, hz, Bool.false_eq_true, if_false]
  | true =>
    simp only [scrubGuarded, scrub, hz, hm, Mapping.zeroGuarded_eq (hb m hm) hfits, if_true,
      Option.map_some]

/-- A block that becomes free makes one more span, and all of them fit below the mark. -/
theorem insertGuarded_eq (hs : a.Sound) (hb : a.Bounded) (h : b ∈ a.live.blocks) :
    a.freeList.insertGuarded b.extent = some (a.freeList.insert b.extent) := by
  have hlength := (hs.tiled).length_le
  have hpos := List.length_pos_of_mem h
  have hcount : a.freeList.length = a.freeList.spans.length := hs.counted
  have hused := used_lt hs hb
  simp only [extents, List.length_append, List.length_map] at hlength
  exact FreeList.insertGuarded_eq (hs.tiled.nonempty _ (Sound.extent_mem h))
    (Word.lt_limit (by omega))

theorem releaseGuarded_eq (hs : a.Sound) (hb : a.Bounded) (h : b ∈ a.live.blocks) :
    a.releaseGuarded b = some (a.release b) := by
  have hstop : b.stop < Word.limit :=
    Word.lt_limit (Nat.le_add_right_of_le (Nat.le_of_lt (block_stop_lt hs hb h)))
  simp only [releaseGuarded, release, Block.extentGuarded_eq (hs.payload b h).2 hstop,
    Block.stopGuarded_eq hstop, scrubGuarded_eq hs hb h, insertGuarded_eq hs hb h,
    Option.bind_eq_bind, Option.bind_some]
  split <;> rfl

theorem freeGuarded_eq (hs : a.Sound) (hb : a.Bounded) : a.freeGuarded b = some (a.free b) := by
  cases hv : a.verify b with
  | ok =>
    simp only [freeGuarded, free, hv]
    exact releaseGuarded_eq hs hb (hs.verify_iff.mp hv)
  | error f => simp only [freeGuarded, free, hv, refusalGuarded_eq hs hb, Option.map_some]

theorem stepGuarded_eq (hs : a.Sound) (hb : a.Bounded) {op : Op Block} (hop : op.Typed) :
    a.stepGuarded k op = some (a.step k op) := by
  cases op with
  | alloc => simp only [stepGuarded, step, allocGuarded_eq hs hb, Option.map_some]
  | allocAligned => simp only [stepGuarded, step, allocAlignedGuarded_eq hs hb, Option.map_some]
  | allocValue => simp only [stepGuarded, step, allocValueGuarded_eq hs hb hop.1, Option.map_some]
  | free => simp only [stepGuarded, step, freeGuarded_eq hs hb, Option.map_some]
  | write b start data =>
    have hguarded := writeGuarded_eq (b := b) hs hb start data
    cases hw : a.write b start data <;>
      simp only [stepGuarded, step, hguarded, hw, Option.map_some]
  | direct | reset | teardown => rfl

theorem usageGuarded_eq (hs : a.Sound) (hb : a.Bounded) : a.usageGuarded = some a.usage := by
  have hused := used_lt hs hb
  have htotal : a.freeList.totalBytes ≤ a.used := by
    rw [← hs.tiled.total_size, extents, List.map_append, Word.total, List.sum_append_nat]
    exact Nat.le_add_left _ _
  have hword : a.freeList.totalBytes < Word.limit := Word.lt_limit (by omega)
  rw [usageGuarded, FreeList.totalBytesGuarded, Word.totalGuarded_eq hword]
  rfl

end Arena

end ArenaAlloc
