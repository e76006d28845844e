import Mathlib.Data.List.Basic
import ArenaAlloc.Proofs.Arena.Layout

/-! Which handles an arena accepts, read off its history: those issued and neither freed nor cleared
since. Generations tell the issues of one arena apart, but not those of two. -/
namespace ArenaAlloc.Arena

def Effect.block? : Effect → Option Block
  | .issued b => some b
  | _ => none

/-- The blocks issued, in order. -/
def issued (es : List Effect) : List Block := es.filterMap Effect.block?

/-- Issued, and neither freed nor cleared after that. -/
def Alive (b : Block) (es : List Effect) : Prop :=
  ∃ pre post, es = pre ++ .issued b :: post ∧ .freed b ∉ post ∧ .cleared ∉ post

variable {k : Kernel} {a a₀ a' : Arena} {b c h : Block} {e : Effect} {es pre post : List Effect}
  {ops : List (Kernel × Op Block)} {n : Nat}

theorem issued_append (es es' : List Effect) : issued (es ++ es') = issued es ++ issued es' :=
  List.filterMap_append

theorem issued_cons_issued (b : Block) (es : List Effect) :
    issued (.issued b :: es) = b :: issued es := rfl

theorem mem_issued : b ∈ issued es ↔ .issued b ∈ es := by
  rw [issued, List.mem_filterMap]
  constructor
  · rintro ⟨e, he, hb⟩
    cases e with
    | issued c =>
      cases hb
      exact he
    | wrote | freed | cleared => contradiction
  · intro he
    exact ⟨_, he, rfl⟩

theorem not_alive_nil : ¬ Alive b [] := by
  rintro ⟨pre, post, hes, -⟩
  simp at hes

/-- An entry that a list holds is its last one, or stands in front of that. -/
theorem split_concat {α : Type} {es pre post : List α} {e x : α}
    (h : es ++ [e] = pre ++ x :: post) :
    post = [] ∧ e = x ∨ ∃ rest, post = rest ++ [e] ∧ es = pre ++ x :: rest := by
  rcases List.eq_nil_or_concat post with rfl | ⟨rest, y, rfl⟩
  · exact Or.inl ⟨rfl, List.singleton_inj.mp (List.append_inj_right' h rfl)⟩
  · rw [List.concat_eq_append] at h ⊢
    rw [← List.cons_append, ← List.append_assoc] at h
    obtain ⟨hfront, hlast⟩ := List.append_inj' h rfl
    obtain rfl := List.singleton_inj.mp hlast
    exact Or.inr ⟨rest, rfl, hfront⟩

theorem alive_concat :
    Alive b (es ++ [e]) ↔ e = .issued b ∨ Alive b es ∧ e ≠ .freed b ∧ e ≠ .cleared := by
  constructor
  · rintro ⟨pre, post, hes, hfreed, hcleared⟩
    rcases split_concat hes with ⟨-, he⟩ | ⟨rest, rfl, hfront⟩
    · exact Or.inl he
    · simp only [List.mem_append, List.mem_singleton, not_or] at hfreed hcleared
      exact Or.inr ⟨⟨pre, rest, hfront, hfreed.1, hcleared.1⟩, Ne.symm hfreed.2,
        Ne.symm hcleared.2⟩
  · rintro (rfl | ⟨⟨pre, post, rfl, hfreed, hcleared⟩, hf, hc⟩)
    · exact ⟨es, [], rfl, by simp, by simp⟩
    · refine ⟨pre, post ++ [e], by simp, ?_, ?_⟩
      · simp [hfreed, Ne.symm hf]
      · simp [hcleared, Ne.symm hc]

/-- With one issue only there is no doubt which one counts. -/
theorem alive_iff_of_once (hpre : .issued b ∉ pre) (hpost : .issued b ∉ post) :
    Alive b (pre ++ .issued b :: post) ↔ .freed b ∉ post ∧ .cleared ∉ post := by
  constructor
  · rintro ⟨pre', post', hes, hfreed, hcleared⟩
    obtain ⟨-, -, rfl⟩ := (List.append_cons_inj_of_notMem hpre hpost).mp hes
    exact ⟨hfreed, hcleared⟩
  · rintro ⟨hfreed, hcleared⟩
    exact ⟨pre, post, rfl, hfreed, hcleared⟩

/-- No block is issued where a live one starts. -/
theorem offset_ne_of_issued (hs : a.Sound) (ht : Takes k a (.issued b) a')
    (hc : c ∈ a.live.blocks) : c.offset ≠ b.offset := by
  cases ht with
  | reuse hn hf => exact fitted_offset_ne hs hn (FreeList.suits_of_bestFit? hf) hc
  | extend hn hf hm => exact fresh_offset_ne hs _ _ hc

theorem mem_live_takes (hs : a.Sound) (ht : Takes k a e a') :
    c ∈ a'.live.blocks ↔ e = .issued c ∨ c ∈ a.live.blocks ∧ e ≠ .freed c ∧ e ≠ .cleared := by
  cases ht with
  | reuse hn hf =>
    simp [record, blocks_reuse hs hn (FreeList.suits_of_bestFit? hf), eq_comm]
  | extend hn hf hm =>
    simp [record, blocks_extend hs, eq_comm]
  | write hb hm => simp
  | retract hb hu | release hb hu =>
    rw [hs.keyed.mem_erase_iff (hs.find?_iff.mp hb)]
    simp [eq_comm]
  | reset => simp [reset]
  | teardown hm => simp [teardown, hm]

theorem alive_takes (hs : a.Sound) (h : c ∈ a.live.blocks ↔ Alive c es) (ht : Takes k a e a') :
    c ∈ a'.live.blocks ↔ Alive c (es ++ [e]) := by
  rw [mem_live_takes hs ht, alive_concat, h]

theorem live_iff_alive_of_created (hc : a₀.Created) : b ∈ a₀.live.blocks ↔ Alive b [] := by
  obtain ⟨k, m, s, -, rfl⟩ := hc.eq
  simp [not_alive_nil]

theorem mem_live_iff_alive (hc : a₀.Created) (ops : List (Kernel × Op Block)) :
    b ∈ (a₀.run ops).live.blocks ↔ Alive b (a₀.history ops) := by
  exact run_rec (P := fun es a => ∀ b, b ∈ a.live.blocks ↔ Alive b es) (fun _ h => h)
    (fun hs h ht b => alive_takes hs (h b) ht) hc.sound (fun _ => live_iff_alive_of_created hc) ops b

/-- Issues carry the numbers in which they come, as far as these are words. -/
theorem generation_takes (ht : Takes k a e a') :
    (∀ b, e = .issued b → b.generation = a.nextGeneration) ∧
      a'.nextGeneration = a.nextGeneration + UInt64.ofNat (issued [e]).length := by
  cases ht with
  | reuse | extend => exact ⟨by rintro b ⟨⟩; rfl, rfl⟩
  | write | retract | release | reset => exact ⟨by simp, (UInt64.add_zero _).symm⟩
  | teardown hm =>
    simp only [teardown, hm]
    exact ⟨by simp, (UInt64.add_zero _).symm⟩

theorem ofNat_eq_ofNat_iff {i j : Nat} :
    UInt64.ofNat i = UInt64.ofNat j ↔ i % Word.limit = j % Word.limit := by
  rw [← UInt64.toNat_inj, UInt64.toNat_ofNat', UInt64.toNat_ofNat']

/-- The next block and all blocks before it carry the numbers of their issues. -/
structure Numbered (es : List Effect) (a : Arena) : Prop where
  next : a.nextGeneration = UInt64.ofNat (issued es).length
  past : ∀ n b, (issued es)[n]? = some b → b.generation = UInt64.ofNat n

theorem numbered_takes (h : Numbered es a) (ht : Takes k a e a') : Numbered (es ++ [e]) a' := by
  obtain ⟨hissued, hnext⟩ := generation_takes ht
  refine ⟨?_, ?_⟩
  · rw [hnext, h.next, issued_append, List.length_append, UInt64.ofNat_add]
  · intro n b hb
    rw [issued_append, List.getElem?_append] at hb
    split at hb
    · exact h.past n b hb
    · rename_i hn
      cases e with
      | issued c =>
        obtain ⟨hzero, rfl⟩ : n - (issued es).length = 0 ∧ c = b := by
          simpa [issued, Effect.block?, List.getElem?_singleton] using hb
        rw [hissued c rfl, h.next]
        congr 1
        omega
      | wrote | freed | cleared =>
        change ([] : List Block)[_]? = _ at hb
        simp at hb

theorem numbered_run (hc : a₀.Created) (ops : List (Kernel × Op Block)) :
    Numbered (a₀.history ops) (a₀.run ops) := by
  have hstart : Numbered [] a₀ := by
    obtain ⟨k, m, s, -, rfl⟩ := hc.eq
    exact ⟨rfl, by simp [issued]⟩
  refine run_rec ?_ ?_ hc.sound hstart ops
  · intro es a m h
    exact ⟨h.next, h.past⟩
  · intro k es a e a' _ h ht
    exact numbered_takes h ht

theorem nodup_issued (hc : a₀.Created) (hn : (issued (a₀.history ops)).length ≤ Word.limit) :
    (issued (a₀.history ops)).Nodup := by
  have hpast := (numbered_run hc ops).past
  rw [List.nodup_iff_getElem?_ne_getElem?]
  intro i j hij hj heq
  rw [List.getElem?_eq_getElem hj] at heq
  have hgeneration := (hpast i _ heq).symm.trans (hpast j _ (List.getElem?_eq_getElem hj))
  rw [ofNat_eq_ofNat_iff, Nat.mod_eq_of_lt (by omega), Nat.mod_eq_of_lt (by omega)] at hgeneration
  omega

/-- Every use of the handle succeeds. -/
structure Accepts (a : Arena) (b : Block) : Prop where
  read : ∃ bytes, a.read b = .ok bytes ∧ bytes.length = b.len
  write : ∀ start data, ∃ a', a.write b start data = .ok a'
  address : ∃ p, a.address b = .ok p
  value : ∀ l : Layout, l.size = b.len → ∃ v, a.readValue l b = .ok v
  free : (a.free b).result = .ok ()

/-- Every use of the handle is a consistency violation, and none leaves a trace. -/
structure Rejects (a : Arena) (b : Block) : Prop where
  read : ∃ f, a.read b = .error f ∧ f.isConsistencyViolation = true
  write : ∀ k start data, ∃ f, (a.step k (.write b start data)).result = .error f ∧
    f.isConsistencyViolation = true ∧ (a.step k (.write b start data)).state = a
  address : ∃ f, a.address b = .error f ∧ f.isConsistencyViolation = true
  value : ∀ l, ∃ f, a.readValue l b = .error f ∧ f.isConsistencyViolation = true
  free : ∃ f, (a.free b).result = .error f ∧ f.isConsistencyViolation = true ∧ (a.free b).state = a

theorem accepts_of_mem (hs : a.Sound) (hb : b ∈ a.live.blocks) : a.Accepts b := by
  obtain ⟨m, -, hstorage⟩ := hs.storage_of_mem hb
  have hread := read_of_storage hstorage
  have hlen : (m.read b.offset b.len).length = b.len := Bytes.length_read _ _ _
  refine ⟨⟨_, hread, hlen⟩, ?_, ?_, ?_, ?_⟩
  · intro start data
    obtain ⟨a', ha, -⟩ := write_takes hs hb ⟨0, false⟩ start data
    exact ⟨a', ha⟩
  · simp only [address, hstorage]
    exact ⟨_, rfl⟩
  · intro l hl
    refine ⟨l.decode (m.read b.offset b.len), ?_⟩
    simp only [readValue, hread]
    exact if_pos (hlen.trans hl.symm)
  · rw [free_of_verify (hs.verify_iff.mpr hb)]
    exact release_result a b

theorem rejects_of_not_mem (hs : a.Sound) (hb : b ∉ a.live.blocks) : a.Rejects b := by
  cases hv : a.verify b with
  | ok => exact (hb (hs.verify_iff.mp hv)).elim
  | error f =>
    have hf := violation_of_verify hv
    have hstorage := storage_of_verify_error hv
    have hread : a.read b = .error f := by simp only [read, hstorage, Except.map]
    refine ⟨⟨f, hread, hf⟩, ?_, ?_, ?_, ?_⟩
    · intro k start data
      have hwrite : a.write b start data = .error f := by simp only [write, hstorage, Except.map]
      simp only [step, hwrite]
      exact ⟨f, rfl, hf, rfl⟩
    · simp only [address, hstorage]
      exact ⟨f, rfl, hf⟩
    · intro l
      simp only [readValue, hread]
      exact ⟨f, rfl, hf⟩
    · obtain ⟨hr, ha⟩ := free_of_verify_error hv
      exact ⟨_, hr, violation_of_refusal hf, ha⟩

theorem accepts_of_alive (hc : a₀.Created) (h : Alive b (a₀.history ops)) :
    (a₀.run ops).Accepts b :=
  accepts_of_mem (sound_run hc.sound ops) ((mem_live_iff_alive hc ops).mpr h)

theorem rejects_of_not_alive (hc : a₀.Created) (h : ¬ Alive b (a₀.history ops)) :
    (a₀.run ops).Rejects b :=
  rejects_of_not_mem (sound_run hc.sound ops) fun hb => h ((mem_live_iff_alive hc ops).mp hb)

/-- A handle is good from its issue to its release or the next bulk release, and never again. The
rest of the run, `more`, counts only for the number of issues that generations can tell apart. -/
theorem accepted_iff_not_released (hc : a₀.Created) (ops more : List (Kernel × Op Block))
    (hn : (issued (a₀.history (ops ++ more))).length < Word.limit)
    (hh : a₀.history ops = pre ++ .issued h :: post) :
    (issued (a₀.history (ops ++ more))).count h = 1 ∧
    (.freed h ∉ post ∧ .cleared ∉ post → (a₀.run ops).Accepts h) ∧
    (.freed h ∈ post ∨ .cleared ∈ post →
      (a₀.run ops).Rejects h ∧ (a₀.run (ops ++ more)).Rejects h) := by
  have hfull : a₀.history (ops ++ more) =
      pre ++ .issued h :: (post ++ (a₀.run ops).history more) := by
    rw [history_append, hh, List.append_assoc, List.cons_append]
  have hnodup := nodup_issued hc (Nat.le_of_lt hn)
  have hcount : (issued (a₀.history (ops ++ more))).count h = 1 := by
    refine List.count_eq_one_of_mem hnodup (mem_issued.mpr ?_)
    simp [hfull]
  rw [hfull, issued_append, issued_cons_issued, List.nodup_append, List.nodup_cons] at hnodup
  obtain ⟨-, ⟨hpost, -⟩, hdisjoint⟩ := hnodup
  rw [mem_issued] at hpost
  have hpre : .issued h ∉ pre := by
    intro hmem
    exact hdisjoint h (mem_issued.mpr hmem) h List.mem_cons_self rfl
  have hlast : .issued h ∉ post := fun hmem => hpost (List.mem_append_left _ hmem)
  refine ⟨hcount, ?_, ?_⟩
  · intro hkept
    refine accepts_of_alive hc ?_
    rw [hh]
    exact (alive_iff_of_once hpre hlast).mpr hkept
  · intro hlost
    refine ⟨rejects_of_not_alive hc ?_, rejects_of_not_alive hc ?_⟩
    · rw [hh, alive_iff_of_once hpre hlast]
      tauto
    · rw [hfull, alive_iff_of_once hpre hpost]
      simp only [List.mem_append]
      tauto

/-- The place of a released block is issued again, before and after a teardown. -/
theorem reissued_place_rejected :
    (blank.run (granted [.alloc 8, .alloc 8, .free ⟨0, 8, 0, 0⟩])).Rejects ⟨0, 8, 0, 0⟩ ∧
    (blank.run (granted [.alloc 8, .alloc 8, .free ⟨0, 8, 0, 0⟩, .alloc 8])).Accepts
      ⟨0, 8, 0, 2⟩ ∧
    (blank.run (granted [.alloc 8, .alloc 8, .free ⟨0, 8, 0, 0⟩, .alloc 8, .teardown,
      .alloc 8])).Rejects ⟨0, 8, 0, 0⟩ := by
  have hfreed : blank.history (granted [.alloc 8, .alloc 8, .free ⟨0, 8, 0, 0⟩]) =
      [] ++ Effect.issued ⟨0, 8, 0, 0⟩ :: [.issued ⟨8, 8, 0, 1⟩, .freed ⟨0, 8, 0, 0⟩] := rfl
  have hagain : blank.history (granted [.alloc 8, .alloc 8, .free ⟨0, 8, 0, 0⟩, .alloc 8]) =
      [.issued ⟨0, 8, 0, 0⟩, .issued ⟨8, 8, 0, 1⟩, .freed ⟨0, 8, 0, 0⟩] ++
        Effect.issued ⟨0, 8, 0, 2⟩ :: [] := rfl
  obtain ⟨-, -, hstale⟩ := accepted_iff_not_released created_blank _
    (granted [.alloc 8, .teardown, .alloc 8]) (by decide) hfreed
  obtain ⟨-, hnew, -⟩ := accepted_iff_not_released created_blank _
    (granted [.teardown, .alloc 8]) (by decide) hagain
  obtain ⟨hnow, hlater⟩ := hstale (Or.inl (by simp))
  exact ⟨hnow, hnew (by simp), hlater⟩

/-- A block still alive in this history is the same handle as the `n`-th block issued elsewhere:
nothing in a handle names its arena. Its own number agrees with `n` as far as generations tell. -/
def Collides (es : List Effect) (n : Nat) (h : Block) : Prop :=
  ∃ pre post, es = pre ++ .issued h :: post ∧ (issued pre).length % Word.limit = n % Word.limit ∧
    .freed h ∉ post ∧ .cleared ∉ post

theorem not_every_foreign_handle_rejected :
    ¬ ∀ (a₀ b₀ : Arena) (ops others : List (Kernel × Op Block)) (h : Block),
      a₀.Created → b₀.Created → .issued h ∈ b₀.history others → (a₀.run ops).Rejects h := by
  intro hall
  obtain ⟨f, hf, -⟩ := (hall blank blank (granted [.alloc 8]) (granted [.alloc 8]) ⟨0, 8, 0, 0⟩
    created_blank created_blank (by decide)).free
  cases hf

/-- A foreign handle is rejected unless it collides with a live block, and then it is taken for the
handle of that block. -/
theorem foreign_handle_accepted_iff_collides {b₀ : Arena} (ha : a₀.Created) (hb : b₀.Created)
    (ops others : List (Kernel × Op Block)) (hn : (issued (b₀.history others))[n]? = some h) :
    (Collides (a₀.history ops) n h → (a₀.run ops).Accepts h) ∧
      (¬ Collides (a₀.history ops) n h → (a₀.run ops).Rejects h) := by
  refine ⟨?_, ?_⟩
  · rintro ⟨pre, post, hes, -, hkept⟩
    exact accepts_of_alive ha ⟨pre, post, hes, hkept⟩
  · intro hfree
    refine rejects_of_not_alive ha ?_
    rintro ⟨pre, post, hes, hkept⟩
    refine hfree ⟨pre, post, hes, ?_, hkept⟩
    have hown : (issued (a₀.history ops))[(issued pre).length]? = some h := by
      rw [hes, issued_append, issued_cons_issued, List.getElem?_append_right (Nat.le_refl _),
        Nat.sub_self]
      rfl
    rw [← ofNat_eq_ofNat_iff, ← (numbered_run ha ops).past _ _ hown,
      ← (numbered_run hb others).past _ _ hn]

theorem twin_handle_accepted :
    (issued (blank.history (granted [.alloc 8])))[0]? = some ⟨0, 8, 0, 0⟩ ∧
    (blank.run (granted [.alloc 8])).Accepts ⟨0, 8, 0, 0⟩ ∧
    (blank.run (granted [.allocAligned 9])).Rejects ⟨0, 8, 0, 0⟩ := by
  have hn : (issued (blank.history (granted [.alloc 8])))[0]? = some ⟨0, 8, 0, 0⟩ := rfl
  obtain ⟨htaken, -⟩ := foreign_handle_accepted_iff_collides created_blank created_blank
    (granted [.alloc 8]) _ hn
  obtain ⟨-, hrefused⟩ := foreign_handle_accepted_iff_collides created_blank created_blank
    (granted [.allocAligned 9]) _ hn
  refine ⟨hn, htaken ⟨[], [], rfl, rfl, by simp, by simp⟩, hrefused ?_⟩
  rintro ⟨pre, post, hes, -⟩
  have hmem : Effect.issued ⟨0, 8, 0, 0⟩ ∈ blank.history (granted [.allocAligned 9]) := by
    simp [hes]
  have hown : blank.history (granted [.allocAligned 9]) = [.issued ⟨0, 9, 0, 0⟩] := rfl
  rw [hown] at hmem
  simp at hmem

end ArenaAlloc.Arena
