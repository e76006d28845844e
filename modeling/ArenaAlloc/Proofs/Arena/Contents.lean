import Mathlib.Data.List.Induction
import ArenaAlloc.Proofs.Arena.Liveness

/-! What live blocks hold: the bytes last stored through their handles, and below these the bytes
they were issued with. -/
namespace ArenaAlloc.Arena

/-- The byte at an offset, zero without storage. -/
def byte (a : Arena) (i : Nat) : UInt8 :=
  match a.mapping with
  | some m => m.bytes.get i
  | none => 0

def payload (a : Arena) (b : Block) : List UInt8 := (List.range' b.offset b.len).map a.byte

/-- What an effect stores at position `i` of a block. -/
def Effect.stored? (b : Block) (i : Nat) : Effect → Option UInt8
  | .wrote c start data => if c = b ∧ start ≤ i then data[i - start]? else none
  | _ => none

/-- The last byte stored at position `i` of a block, if there is one. -/
def lastStored (b : Block) (i : Nat) (es : List Effect) : Option UInt8 :=
  (es.filterMap (Effect.stored? b i)).getLast?

/-- A payload of which some bytes were replaced since, each by the last one stored in its place. -/
def overlay (b : Block) (base : List UInt8) (es : List Effect) : List UInt8 :=
  base.mapIdx fun i v => (lastStored b i es).getD v

/-- Effects that may change what the block holds, or give it up. -/
def Effect.Touches (b : Block) : Effect → Prop
  | .issued _ => False
  | .wrote c _ _ => c = b
  | .freed c => c = b
  | .cleared => True

/-- Operations that are not meant to touch the block. -/
def Op.Spares (b : Block) : Op Block → Prop
  | .free c => c ≠ b
  | .write c _ _ => c ≠ b
  | .reset | .teardown => False
  | _ => True

/-- The run issued `b` with the bytes `base`, and did `rest` since. -/
def Since (a₀ : Arena) (ops : List (Kernel × Op Block)) (b : Block) (base : List UInt8)
    (rest : List Effect) : Prop :=
  ∃ front o back, ops = front ++ o :: back ∧
    (a₀.run front).history (o :: back) = .issued b :: rest ∧
    ((a₀.run front).step o.1 o.2.bare).state.read b = .ok base

variable {k : Kernel} {a a₀ a' : Arena} {b c : Block} {e : Effect} {es : List Effect}
  {op : Op Block} {base : List UInt8} {i : Nat}

theorem lastStored_append (b : Block) (i : Nat) (es es' : List Effect) :
    lastStored b i (es ++ es') = (lastStored b i es').or (lastStored b i es) := by
  rw [lastStored, List.filterMap_append, List.getLast?_append]
  rfl

theorem lastStored_singleton (b : Block) (i : Nat) (e : Effect) :
    lastStored b i [e] = e.stored? b i := by
  rw [lastStored]
  cases h : e.stored? b i <;> simp [h]

theorem overlay_nil (b : Block) (base : List UInt8) : overlay b base [] = base := by
  refine List.ext_getElem? fun i => ?_
  simp [overlay, lastStored]

theorem overlay_append (b : Block) (base : List UInt8) (es es' : List Effect) :
    overlay b base (es ++ es') = overlay b (overlay b base es) es' := by
  refine List.ext_getElem? fun i => ?_
  simp only [overlay, List.getElem?_mapIdx, lastStored_append]
  cases base[i]? with
  | none => rfl
  | some v => cases lastStored b i es' <;> rfl

theorem overlay_of_not_touches (h : ∀ e ∈ es, ¬ e.Touches b) : overlay b base es = base := by
  have hnone : ∀ i, es.filterMap (Effect.stored? b i) = [] := by
    intro i
    refine List.filterMap_eq_nil_iff.mpr fun e he => ?_
    cases e with
    | wrote c start data =>
      refine if_neg ?_
      rintro ⟨rfl, -⟩
      exact h _ he rfl
    | issued | freed | cleared => rfl
  refine List.ext_getElem? fun i => ?_
  simp [overlay, lastStored, hnone]

theorem byte_eq {m : Mapping} (h : a.mapping = some m) (i : Nat) : a.byte i = m.bytes.get i := by
  simp only [byte, h]

theorem read_live (hs : a.Sound) (hb : b ∈ a.live.blocks) : a.read b = .ok (a.payload b) := by
  obtain ⟨m, hm, hstorage⟩ := hs.storage_of_mem hb
  have hbytes : a.byte = m.bytes.get := funext (byte_eq hm)
  rw [read_of_storage hstorage, payload, hbytes]
  rfl

/-- Storage that grows, by whatever way, brings along what is below the mark. -/
theorem Room.get_bytes {needed : Nat} {m : Mapping} (h : a.Room k needed m)
    (hu : a.used ≤ a.capacity) (hi : i < a.used) : m.bytes.get i = a.byte i := by
  cases h with
  | spare hm hroom => exact (byte_eq hm i).symm
  | grown hm hfull hword hg => exact (hg.get_bytes hi).trans (byte_eq hm i).symm
  | recreated hm hfull hword hc =>
    have hnone := capacity_of_unmapped hm
    omega

theorem not_contains_payload (hs : a.Sound) (hb : b ∈ a.live.blocks) (hc : c ∈ a.live.blocks)
    (hne : c ≠ b) (hi : i < b.len) : c.extent.contains (b.offset + i) = false :=
  (hs.apart hb hc hne.symm).not_contains (Block.extent_contains hi (hs.payload b hb).2)

theorem byte_of_scrub (h : a'.mapping = a.scrub c) (hi : c.extent.contains i = false) :
    a'.byte i = a.byte i := by
  have hout := Span.not_contains_iff.mp hi
  simp only [Span.stop] at hout
  cases hm : a.mapping with
  | none =>
    simp only [scrub, hm, Option.map_none, ite_self] at h
    simp only [byte, h, hm]
  | some m =>
    simp only [scrub, hm, Option.map_some] at h
    rw [byte_eq hm]
    split at h
    · exact (byte_eq h i).trans ((Mapping.get_zero _ _ _ _).trans (if_neg (by omega)))
    · exact byte_eq h i

theorem get_write_payload (m : Mapping) (start : Nat) (data : List UInt8) (hi : i < b.len) :
    (m.write (b.offset + start) (data.take (b.len - start))).bytes.get (b.offset + i) =
      ((Effect.wrote b start data).stored? b i).getD (m.bytes.get (b.offset + i)) := by
  rw [Mapping.get_write_within m b.offset start data hi, Effect.stored?]
  by_cases hstart : start ≤ i
  · rw [if_pos hstart, if_pos ⟨rfl, hstart⟩]
  · rw [if_neg hstart, if_neg fun h => hstart h.2]
    rfl

theorem get_write_outside (m : Mapping) (start : Nat) (data : List UInt8)
    (hp : c.padding ≤ c.offset) (hi : c.extent.contains i = false) :
    (m.write (c.offset + start) (data.take (c.len - start))).bytes.get i = m.bytes.get i := by
  have hout := Span.not_contains_iff.mp hi
  simp only [Block.extent, Span.stop] at hout
  exact Mapping.get_write_outside m c.offset start data (by omega)

theorem byte_takes (hs : a.Sound) (hb : b ∈ a.live.blocks) (ht : Takes k a e a')
    (hf : e ≠ .freed b) (hc : e ≠ .cleared) (hi : i < b.len) :
    a'.byte (b.offset + i) = (e.stored? b i).getD (a.byte (b.offset + i)) := by
  cases ht with
  | reuse hn hfit => rfl
  | extend hn hfit hm =>
    have hstop := hs.stop_le_used hb
    simp only [Block.stop] at hstop
    exact hm.get_bytes hs.room (by omega)
  | @write c start data m hfind hm =>
    have hlive := hs.find?_iff.mp hfind
    rw [byte_eq hm]
    by_cases hne : c = b
    · subst hne
      exact get_write_payload m start data hi
    · have hother : (Effect.wrote c start data).stored? b i = none := if_neg fun h => hne h.1
      rw [hother]
      exact get_write_outside m start data (hs.payload c hlive).2
        (not_contains_payload hs hb hlive hne hi)
  | @retract c hfind hu | @release c hfind hu =>
    have hne : c ≠ b := by
      rintro rfl
      exact hf rfl
    exact byte_of_scrub rfl (not_contains_payload hs hb (hs.find?_iff.mp hfind) hne hi)
  | reset | teardown => exact (hc rfl).elim

theorem payload_takes (hs : a.Sound) (hb : b ∈ a.live.blocks) (ht : Takes k a e a')
    (hf : e ≠ .freed b) (hc : e ≠ .cleared) : a'.payload b = overlay b (a.payload b) [e] := by
  refine List.ext_getElem? fun i => ?_
  simp only [payload, overlay, List.getElem?_mapIdx, List.getElem?_map]
  by_cases hi : i < b.len
  · rw [List.getElem?_range' hi, Nat.one_mul, lastStored_singleton]
    exact congrArg some (byte_takes hs hb ht hf hc hi)
  · rw [List.getElem?_eq_none (by simpa using hi)]
    rfl

/-- A block that none of the effects gives up stays live, and holds what they stored. -/
theorem kept_takesAll (hs : a.Sound) (hb : b ∈ a.live.blocks) (ht : TakesAll k a es a')
    (hf : .freed b ∉ es) (hc : .cleared ∉ es) :
    b ∈ a'.live.blocks ∧ a'.payload b = overlay b (a.payload b) es := by
  induction es generalizing a with
  | nil =>
    obtain rfl : a' = a := ht
    exact ⟨hb, (overlay_nil b _).symm⟩
  | cons e es ih =>
    obtain ⟨c, hstep, ht⟩ := ht
    rw [List.mem_cons, not_or] at hf hc
    have hlive : b ∈ c.live.blocks :=
      (mem_live_takes hs hstep).mpr (Or.inr ⟨hb, Ne.symm hf.1, Ne.symm hc.1⟩)
    obtain ⟨hlast, hpayload⟩ := ih (sound_takes hs hstep) hlive ht hf.2 hc.2
    refine ⟨hlast, ?_⟩
    rw [hpayload, payload_takes hs hb hstep (Ne.symm hf.1) (Ne.symm hc.1), ← overlay_append]
    rfl

theorem kept_step (hs : a.Sound) (hb : b ∈ a.live.blocks) (k : Kernel) (op : Op Block)
    (hf : .freed b ∉ a.effects k op) (hc : .cleared ∉ a.effects k op) :
    b ∈ (a.step k op).state.live.blocks ∧
      (a.step k op).state.payload b = overlay b (a.payload b) (a.effects k op) := by
  obtain ⟨m, ht⟩ := step_takes hs k op
  have hkept := kept_takesAll (hs.align m) hb ht hf hc
  exact hkept

theorem live_of_takesAll (hs : a.Sound) (ht : TakesAll k a es a') (hb : b ∈ a'.live.blocks)
    (hi : .issued b ∉ es) : b ∈ a.live.blocks ∧ .freed b ∉ es ∧ .cleared ∉ es := by
  induction es generalizing a with
  | nil =>
    obtain rfl : a' = a := ht
    exact ⟨hb, by simp, by simp⟩
  | cons e es ih =>
    obtain ⟨c, hstep, ht⟩ := ht
    rw [List.mem_cons, not_or] at hi
    obtain ⟨hlive, hfreed, hcleared⟩ := ih (sound_takes hs hstep) ht hi.2
    rcases (mem_live_takes hs hstep).mp hlive with rfl | ⟨hlive, hf, hc⟩
    · exact (hi.1 rfl).elim
    · exact ⟨hlive, List.not_mem_cons_of_ne_of_not_mem hf.symm hfreed,
        List.not_mem_cons_of_ne_of_not_mem hc.symm hcleared⟩

theorem allocates_of_issued {stored : Bool} {r : Except Fault (Option Block)}
    (h : .issued b ∈ Effect.told stored op r) : op.allocates = true := by
  simp only [Effect.told] at h
  split at h <;> simp_all [Op.allocates]

theorem not_live_of_issued (hs : a.Sound) (ht : Takes k a (.issued c) a') :
    c ∉ a.live.blocks := by
  intro hlive
  exact offset_ne_of_issued hs ht hlive rfl

/-- A block that is live after an operation was kept by it, or issued with the bytes found then. -/
theorem kept_or_issued (hs : a.Sound) (k : Kernel) (op : Op Block)
    (hb : b ∈ (a.step k op).state.live.blocks) :
    (b ∈ a.live.blocks ∧ .freed b ∉ a.effects k op ∧ .cleared ∉ a.effects k op) ∨
    ∃ base es, a.effects k op = .issued b :: es ∧ .freed b ∉ es ∧ .cleared ∉ es ∧
      (a.step k op.bare).state.read b = .ok base ∧
      (a.step k op).state.payload b = overlay b base es := by
  by_cases hi : .issued b ∈ a.effects k op
  · obtain ⟨m, hr⟩ := requests hs k (allocates_of_issued hi)
    cases hr with
    | @issued c es he ht hes hw =>
      have hother : ∀ e, (∀ start data, e ≠ .wrote c start data) → e ∉ es := by
        intro e hne hmem
        obtain ⟨start, data, rfl⟩ := hw e hmem
        exact hne start data rfl
      have hfreed : .freed b ∉ es := hother _ (by simp)
      have hcleared : .cleared ∉ es := hother _ (by simp)
      obtain rfl : b = c := by
        rw [he] at hi
        rcases List.mem_cons.mp hi with hi | hi
        · exact Effect.issued.inj hi
        · exact (hother _ (by simp) hi).elim
      have hsound := sound_takes (hs.align m) ht
      have hlive := mem_of_issued ht
      exact Or.inr ⟨_, es, he, hfreed, hcleared, read_live hsound hlive,
        (kept_takesAll hsound hlive hes hfreed hcleared).2⟩
    | failed he ha => simp [he] at hi
  · obtain ⟨m, ht⟩ := step_takes hs k op
    have hkept := live_of_takesAll (hs.align m) ht hb hi
    exact Or.inl hkept

theorem not_touches_of_spares (hs : a.Sound) (hb : b ∈ a.live.blocks) (k : Kernel)
    (h : op.Spares b) : ∀ e ∈ a.effects k op, ¬ e.Touches b := by
  by_cases ho : op.allocates = true
  · obtain ⟨m, hr⟩ := requests hs k ho
    cases hr with
    | @issued c es he ht hes hw =>
      have hne : c ≠ b := by
        rintro rfl
        exact not_live_of_issued (hs.align m) ht hb
      rw [he]
      rintro e hmem htouch
      rcases List.mem_cons.mp hmem with rfl | hmem
      · exact htouch
      · obtain ⟨start, data, rfl⟩ := hw e hmem
        exact hne htouch
    | failed he ha => simp [he]
  · intro e hmem
    rw [effects] at hmem
    generalize (a.step k op).result = r at hmem
    cases op with
    | alloc | allocAligned | allocValue => exact (ho rfl).elim
    | free c | write c start data =>
      cases r with
      | ok =>
        obtain rfl := List.mem_singleton.mp hmem
        exact h
      | error f => exact (List.not_mem_nil hmem).elim
    | direct d => cases r <;> exact (List.not_mem_nil hmem).elim
    | reset | teardown => exact h.elim

theorem effects_of_error {f : Fault} (h : (a.step k op).result = .error f) :
    a.effects k op = [] := by
  rw [effects_of_result h]
  cases op <;> rfl

theorem read_of_not_touches (hs : a.Sound) (hb : b ∈ a.live.blocks)
    (h : ∀ e ∈ a.effects k op, ¬ e.Touches b) :
    (a.step k op).state.read b = a.read b := by
  obtain ⟨hlive, hpayload⟩ := kept_step hs hb k op (fun hm => h _ hm rfl) (fun hm => h _ hm trivial)
  rw [read_live (sound_step hs k op) hlive, read_live hs hb, hpayload, overlay_of_not_touches h]

/-- The operation that issued a live block is found by going back from the end of the run. -/
theorem since_of_live (hc : a₀.Created) (ops : List (Kernel × Op Block))
    (hb : b ∈ (a₀.run ops).live.blocks) :
    ∃ base rest, Since a₀ ops b base rest ∧ .freed b ∉ rest ∧ .cleared ∉ rest ∧
      (a₀.run ops).payload b = overlay b base rest := by
  induction ops using List.reverseRecOn with
  | nil =>
    obtain ⟨k, m, s, -, rfl⟩ := hc.eq
    exact (List.not_mem_nil hb).elim
  | append_singleton ops o ih =>
    rw [run_append] at hb ⊢
    have hs := sound_run hc.sound ops
    have hone : (a₀.run ops).history [o] = (a₀.run ops).effects o.1 o.2 := List.append_nil _
    rcases kept_or_issued hs o.1 o.2 hb with ⟨hlive, hf, hcl⟩ | ⟨base, es, he, hf, hcl, hread, hpay⟩
    · obtain ⟨base, rest, hsince, hfreed, hcleared, hpayload⟩ := ih hlive
      obtain ⟨front, p, back, rfl, hhist, hread⟩ := hsince
      refine ⟨base, rest ++ (a₀.run (front ++ p :: back)).effects o.1 o.2,
        ⟨front, p, back ++ [o], by simp, ?_, hread⟩, ?_, ?_, ?_⟩
      · rw [← List.cons_append, history_append, hhist, ← run_append, hone]
        rfl
      · exact List.not_mem_append hfreed hf
      · exact List.not_mem_append hcleared hcl
      · rw [overlay_append, ← hpayload]
        exact (kept_step hs hlive o.1 o.2 hf hcl).2
    · exact ⟨base, es, ⟨ops, o, [], rfl, hone.trans he, hread⟩, hf, hcl, hpay⟩

/-- A live block holds what was last stored in each place since its issue, or what it was issued
with. Nothing that is not meant for it changes that. -/
theorem read_eq_last_stored (hc : a₀.Created) (ops : List (Kernel × Op Block))
    (hb : b ∈ (a₀.run ops).live.blocks) :
    (∃ base rest, Since a₀ ops b base rest ∧ .freed b ∉ rest ∧ .cleared ∉ rest ∧
      base.length = b.len ∧ (a₀.run ops).read b = .ok (overlay b base rest)) ∧
    ∀ k op, (op.Spares b ∨ ∃ f, ((a₀.run ops).step k op).result = .error f) →
      ((a₀.run ops).step k op).state.read b = (a₀.run ops).read b := by
  have hs := sound_run hc.sound ops
  refine ⟨?_, ?_⟩
  · obtain ⟨base, rest, hsince, hfreed, hcleared, hpayload⟩ := since_of_live hc ops hb
    refine ⟨base, rest, hsince, hfreed, hcleared, ?_, ?_⟩
    · have hlen := congrArg List.length hpayload
      simpa [payload, overlay, eq_comm] using hlen
    · rw [read_live hs hb, hpayload]
  · rintro k op (hspares | ⟨f, hf⟩)
    · exact read_of_not_touches hs hb (not_touches_of_spares hs hb k hspares)
    · refine read_of_not_touches hs hb ?_
      simp [effects_of_error hf]

/-- The neighbour of a block is written and released, and growth is refused before storage moves. -/
def busy : List (Kernel × Op Block) :=
  granted [.alloc 4, .alloc 8, .alloc 1, .write ⟨0, 4, 0, 0⟩ 1 [7, 8, 9, 5],
    .write ⟨4, 8, 0, 1⟩ 0 [6], .free ⟨4, 8, 0, 1⟩] ++
    [(⟨0, false⟩, .alloc 5000), (⟨2, false⟩, .alloc 5000)]

theorem survivor_read :
    (∃ base rest, Since blank busy ⟨0, 4, 0, 0⟩ base rest ∧
      overlay ⟨0, 4, 0, 0⟩ base rest = [0, 7, 8, 9]) ∧
    ((blank.run busy).step ⟨3, false⟩ (.free ⟨12, 1, 0, 2⟩)).state.read ⟨0, 4, 0, 0⟩ =
      .ok [0, 7, 8, 9] := by
  have hread : (blank.run busy).read ⟨0, 4, 0, 0⟩ = .ok [0, 7, 8, 9] := by decide
  obtain ⟨⟨base, rest, hsince, -, -, -, hlast⟩, hframe⟩ :=
    read_eq_last_stored created_blank busy (b := ⟨0, 4, 0, 0⟩) (by decide)
  rw [hread] at hlast
  refine ⟨⟨base, rest, hsince, (Except.ok.inj hlast).symm⟩, ?_⟩
  rw [hframe ⟨3, false⟩ (.free ⟨12, 1, 0, 2⟩) (Or.inl (fun h => by cases h)), hread]

end ArenaAlloc.Arena
