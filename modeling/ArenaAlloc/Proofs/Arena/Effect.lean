import ArenaAlloc.Arena.Run
import ArenaAlloc.Proofs.Arena.Handle
import ArenaAlloc.Proofs.FreeList
import ArenaAlloc.Proofs.LiveTable
import ArenaAlloc.Proofs.Mapping

/-! What operations do to the blocks of an arena, and the history of a run. An operation comes down
to at most two effects, and each effect changes the state in one of a few ways. -/
namespace ArenaAlloc.Arena

inductive Effect where
  | issued (b : Block)
  | wrote (b : Block) (start : Nat) (data : List UInt8)
  | freed (b : Block)
  /-- All blocks were given up at once. -/
  | cleared
deriving DecidableEq

/-- The effects that an answer tells of. A teardown has one only if there was storage. -/
def Effect.told (stored : Bool) : Op Block → Except Fault (Option Block) → List Effect
  | .alloc _, .ok (some b) => [.issued b]
  | .allocAligned _, .ok (some b) => [.issued b]
  | .allocValue l v, .ok (some b) => [.issued b, .wrote b 0 (l.encode v)]
  | .free b, .ok _ => [.freed b]
  | .write b start data, .ok _ => [.wrote b start data]
  | .reset, .ok _ => [.cleared]
  | .teardown, .ok _ => if stored then [.cleared] else []
  | _, _ => []

def effects (a : Arena) (k : Kernel) (op : Op Block) : List Effect :=
  Effect.told a.mapping.isSome op (a.step k op).result

/-- What a run did, in order. -/
def history (a : Arena) : List (Kernel × Op Block) → List Effect
  | [] => []
  | o :: ops => a.effects o.1 o.2 ++ (a.step o.1 o.2).state.history ops

/-- The arena with one more block in its table. -/
def record (a : Arena) (b : Block) : Arena :=
  { a with live := a.live.insert b, nextGeneration := a.nextGeneration + 1 }

/-- The block that a fit yields. -/
def fitted (a : Arena) (f : Fit) (size : Nat) : Block :=
  ⟨f.start, size, f.padding, a.nextGeneration⟩

/-- The block that comes next at the high-water mark. -/
def fresh (a : Arena) (size align : Nat) : Block :=
  ⟨a.used + Word.padding a.used align, size, Word.padding a.used align, a.nextGeneration⟩

/-- The mappings that can come out of making room for `needed` bytes. -/
inductive Room (k : Kernel) (a : Arena) (needed : Nat) : Mapping → Prop
  | spare {m : Mapping} : a.mapping = some m → needed ≤ a.capacity - a.used → Room k a needed m
  | grown {m₀ m : Mapping} : a.mapping = some m₀ → a.capacity - a.used < needed →
      2 * a.capacity + needed < Word.limit →
      Mapping.Grown k m₀ (2 * a.capacity + needed) a.used m → Room k a needed m
  | recreated {m : Mapping} : a.mapping = none → a.capacity - a.used < needed →
      2 * a.capacity + needed < Word.limit →
      Mapping.create k (max (2 * a.capacity + needed) a.settings.effectiveInitial) = .ok m →
      Room k a needed m

/-- The ways in which an effect changes the state. -/
inductive Takes (k : Kernel) (a : Arena) : Effect → Arena → Prop
  | reuse {f : Fit} {size : Nat} {aligned : Bool} : 0 < size →
      a.freeList.bestFit? size (Alignment.boundary aligned) = some f →
      Takes k a (.issued (a.fitted f size))
        ({ a with freeList := a.freeList.carve f size }.record (a.fitted f size))
  | extend {m : Mapping} {size : Nat} {aligned : Bool} : 0 < size →
      a.freeList.bestFit? size (Alignment.boundary aligned) = none →
      a.Room k (a.fresh size (Alignment.boundary aligned)).extent.size m →
      Takes k a (.issued (a.fresh size (Alignment.boundary aligned)))
        ({ a with
            mapping := some m
            used := (a.fresh size (Alignment.boundary aligned)).stop }.record
          (a.fresh size (Alignment.boundary aligned)))
  | write {b : Block} {start : Nat} {data : List UInt8} {m : Mapping} :
      a.live.find? b.offset = some b → a.mapping = some m →
      Takes k a (.wrote b start data)
        { a with mapping := some (m.write (b.offset + start) (data.take (b.len - start))) }
  | retract {b : Block} : a.live.find? b.offset = some b → b.stop = a.used →
      Takes k a (.freed b)
        { a with
          live := a.live.erase b.offset
          mapping := a.scrub b
          used := b.extent.offset }
  | release {b : Block} : a.live.find? b.offset = some b → b.stop ≠ a.used →
      Takes k a (.freed b)
        { a with
          live := a.live.erase b.offset
          mapping := a.scrub b
          freeList := a.freeList.insert b.extent }
  | reset : Takes k a .cleared a.reset.state
  | teardown {m : Mapping} : a.mapping = some m → Takes k a .cleared a.teardown.state

/-- Several effects in a row. -/
def TakesAll (k : Kernel) : Arena → List Effect → Arena → Prop
  | a, [], a' => a' = a
  | a, e :: es, a' => ∃ c, Takes k a e c ∧ TakesAll k c es a'

variable {k : Kernel} {a a' : Arena} {b : Block}

theorem capacity_of_mapped {m : Mapping} (h : a.mapping = some m) : a.capacity = m.capacity := by
  simp only [capacity, h]

theorem capacity_of_unmapped (h : a.mapping = none) : a.capacity = 0 := by
  simp only [capacity, h]

theorem room_of_makeRoom {needed : Nat} {events : List Event} (hn : 0 < needed)
    (h : a.makeRoom k needed = .ok (a', events)) :
    ∃ m, a' = { a with mapping := some m } ∧ a.Room k needed m := by
  simp only [makeRoom] at h
  split at h
  · rename_i hroom
    cases h
    cases hm : a.mapping with
    | none =>
      have := capacity_of_unmapped hm
      omega
    | some m => exact ⟨m, by rw [← hm], .spare hm hroom⟩
  rename_i hfull
  split at h
  · cases h
  rename_i hword
  split at h
  · rename_i m₀ hm
    obtain ⟨m, hg, he⟩ := Mapping.map_eq_ok h
    cases he
    exact ⟨m, rfl, .grown hm (by omega) (by omega) (Mapping.grown_of_grow hg)⟩
  · rename_i hm
    obtain ⟨m, hc, he⟩ := Mapping.map_eq_ok h
    cases he
    exact ⟨m, rfl, .recreated hm (by omega) (by omega) hc⟩

theorem Room.used_add_le {needed : Nat} {m : Mapping} (h : a.Room k needed m)
    (hu : a.used ≤ a.capacity) : a.used + needed ≤ m.capacity := by
  cases h with
  | spare hm hroom =>
    have := capacity_of_mapped hm
    omega
  | grown hm hfull hword hg =>
    have := hg.capacity_le
    omega
  | recreated hm hfull hword hc =>
    obtain ⟨n, -, -, rfl⟩ := Mapping.create_eq_ok hc
    have : 2 * a.capacity + needed ≤ max (2 * a.capacity + needed) a.settings.effectiveInitial :=
      Nat.le_max_left _ _
    dsimp only
    omega

/-- What all requests for a block share: either a block is issued, or nothing changes. -/
theorem place_takes {size : Nat} (hn : 0 < size) (aligned : Bool) :
    (∃ b, (a.place k size (Alignment.boundary aligned)).result = .ok b ∧
      Takes k a (.issued b) (a.place k size (Alignment.boundary aligned)).state) ∨
    (∃ f, (a.place k size (Alignment.boundary aligned)).result = .error f ∧
      (a.place k size (Alignment.boundary aligned)).state = a) := by
  simp only [place]
  split
  · rename_i f hf
    exact Or.inl ⟨a.fitted f size, rfl, .reuse hn hf⟩
  · rename_i hf
    simp only [extend]
    split
    · exact Or.inr ⟨_, rfl, rfl⟩
    split
    · exact Or.inr ⟨_, rfl, rfl⟩
    · rename_i a' events hroom
      obtain ⟨m, rfl, hm⟩ := room_of_makeRoom (by omega) hroom
      have ht := Takes.extend hn hf hm
      rw [Block.stop, fresh, Nat.add_assoc] at ht
      exact Or.inl ⟨_, rfl, ht⟩

/-- Where a new block comes from: the front of the chosen span, or the mark if there is none. -/
theorem place_eq_ok {size align : Nat} (hn : 0 < size)
    (h : (a.place k size align).result = .ok b) :
    (∃ f, a.freeList.bestFit? size align = some f ∧ b = a.fitted f size ∧
      (a.place k size align).state =
        { a with freeList := a.freeList.carve f size }.record (a.fitted f size)) ∨
    (a.freeList.bestFit? size align = none ∧ b = a.fresh size align ∧ ∃ m,
      a.Room k (a.fresh size align).extent.size m ∧
      (a.place k size align).state =
        { a with mapping := some m, used := (a.fresh size align).stop }.record
          (a.fresh size align)) := by
  cases hf : a.freeList.bestFit? size align with
  | some f =>
    simp only [place, hf] at h ⊢
    cases h
    exact Or.inl ⟨f, rfl, rfl, rfl⟩
  | none =>
    simp only [place, hf, extend] at h ⊢
    split at h
    · cases h
    rename_i hword
    rw [if_neg hword]
    cases hroom : a.makeRoom k (Word.padding a.used align + size) with
    | error f =>
      simp only [hroom] at h
      cases h
    | ok r =>
      obtain ⟨c, events⟩ := r
      obtain ⟨m, rfl, hm⟩ := room_of_makeRoom (by omega) hroom
      simp only [hroom] at h ⊢
      cases h
      refine Or.inr ⟨trivial, rfl, m, hm, ?_⟩
      rw [Block.stop, fresh, Nat.add_assoc]
      rfl

theorem len_of_place {size align : Nat} (h : (a.place k size align).result = .ok b) :
    b.len = size := by
  simp only [place] at h
  split at h
  · cases h
    rfl
  simp only [extend] at h
  split at h
  · cases h
  split at h
  · cases h
  · cases h
    rfl

theorem len_of_alloc {size : Nat} (h : (a.alloc k size).result = .ok b) : b.len = size := by
  simp only [alloc] at h
  split at h
  · cases h
  · exact len_of_place h

theorem len_of_allocAligned {size : Nat} (h : (a.allocAligned k size).result = .ok b) :
    b.len = size := by
  simp only [allocAligned] at h
  split at h
  · cases h
  · exact len_of_place h

end ArenaAlloc.Arena
