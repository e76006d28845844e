import Mathlib.Data.List.Induction
import Mathlib.Data.List.Pairwise
import ArenaAlloc.Proofs.Slots

/-! What slots come down to over any run: a roster of the items in the order in which they were
pushed, each under its index. Tombstones and the counter of live cells never show. -/
namespace ArenaAlloc

namespace Slots

variable {α : Type}

/-- What can be done to slots. An item is overwritten alike in place and by a replacement. -/
inductive Op (α : Type) where
  | push (x : α)
  | get (i : Nat)
  | set (i : Nat) (x : α)
  | erase (i : Nat)
  | compact
  | clear

/-- The index of a new item, or what an index stood for. -/
inductive Answer (α : Type) where
  | index (i : Nat)
  | item (x : Option α)
  | done

def step (s : Slots α) : Op α → Slots α
  | .push x => s.push x
  | .get _ => s
  | .set i x => s.set i x
  | .erase i => s.erase i
  | .compact => s.compact
  | .clear => {}

def answer (s : Slots α) : Op α → Answer α
  | .push _ => .index s.nextIndex
  | .get i | .set i _ | .erase i => .item (s.get? i)
  | .compact | .clear => .done

def run (s : Slots α) (ops : List (Op α)) : Slots α := ops.foldl step s

/-- The index that an operation is about. -/
def Op.index? : Op α → Option Nat
  | .get i | .set i _ | .erase i => some i
  | .push _ | .compact | .clear => none

end Slots

/-- An item that was pushed as number `serial` and is found under `index`. -/
structure Entry (α : Type) where
  serial : Nat
  index : Nat
  item : α
deriving DecidableEq

structure Roster (α : Type) where
  entries : List (Entry α) := []
  /-- Number of items ever pushed. -/
  pushed : Nat := 0
  /-- The index of the next item. -/
  next : Nat := 0

namespace Roster

variable {α : Type}

def get? (r : Roster α) (i : Nat) : Option α :=
  (r.entries.find? fun e => e.index = i).map Entry.item

def erase (r : Roster α) (i : Nat) : Roster α :=
  let rest := r.entries.filter fun e => e.index ≠ i
  { r with entries := rest, next := if rest.isEmpty then 0 else r.next }

/-- Indexes count on from the last one, and from zero once the roster is empty. Compaction counts the
entries anew. -/
def step (r : Roster α) : Slots.Op α → Roster α
  | .push x =>
    { entries := r.entries ++ [⟨r.pushed, r.next, x⟩], pushed := r.pushed + 1, next := r.next + 1 }
  | .get _ => r
  | .set i x =>
    { r with entries := r.entries.map fun e => if e.index = i then { e with item := x } else e }
  | .erase i => r.erase i
  | .compact =>
    { r with
      entries := r.entries.mapIdx fun n e => { e with index := n }
      next := r.entries.length }
  | .clear => { r with entries := [], next := 0 }

def answer (r : Roster α) : Slots.Op α → Slots.Answer α
  | .push _ => .index r.next
  | .get i | .set i _ | .erase i => .item (r.get? i)
  | .compact | .clear => .done

def run (r : Roster α) (ops : List (Slots.Op α)) : Roster α := ops.foldl step r

/-- What an operation gives to the item that is pushed as number `n`: its first value, or a new one
through the index under which it is found. -/
def writes (n : Nat) (r : Roster α) : Slots.Op α → List α
  | .push x => if r.pushed = n then [x] else []
  | .set i x => if r.entries.any fun e => e.serial = n ∧ e.index = i then [x] else []
  | _ => []

/-- All values that a run gives to the item that is pushed as number `n`, in order. -/
def written (n : Nat) (r : Roster α) : List (Slots.Op α) → List α
  | [] => []
  | op :: ops => r.writes n op ++ (r.step op).written n ops

/-- Serial numbers and indexes both grow along the roster, and stay below those to come. -/
structure Ordered (r : Roster α) : Prop where
  increasing : r.entries.Pairwise fun e f => e.serial < f.serial ∧ e.index < f.index
  serial_lt : ∀ e ∈ r.entries, e.serial < r.pushed
  index_lt : ∀ e ∈ r.entries, e.index < r.next

variable {r : Roster α} {e f : Entry α} {op : Slots.Op α} {ops : List (Slots.Op α)} {n : Nat}

theorem Ordered.eq_of_serial (h : r.Ordered) (he : e ∈ r.entries) (hf : f ∈ r.entries)
    (heq : e.serial = f.serial) : e = f := by
  by_contra hne
  have hserial : r.entries.Pairwise fun e f => e.serial ≠ f.serial :=
    h.increasing.imp fun hlt => Nat.ne_of_lt hlt.1
  have : Std.Symm fun e f : Entry α => e.serial ≠ f.serial := ⟨fun _ _ h => h.symm⟩
  exact hserial.forall he hf hne heq

/-- Where an entry after an operation comes from: it was pushed by it, or it was there before. -/
theorem mem_step (hf : f ∈ (r.step op).entries) :
    (∃ x, op = .push x ∧ f = ⟨r.pushed, r.next, x⟩) ∨
    ∃ e ∈ r.entries, f.serial = e.serial ∧ (op ≠ .compact → f.index = e.index) ∧
      ((∃ x, op = .set e.index x ∧ f.item = x) ∨
        (∀ x, op ≠ .set e.index x) ∧ f.item = e.item) := by
  cases op with
  | push x =>
    rcases List.mem_append.mp hf with hf | hf
    · exact Or.inr ⟨f, hf, rfl, fun _ => rfl, Or.inr ⟨by simp, rfl⟩⟩
    · exact Or.inl ⟨x, rfl, List.mem_singleton.mp hf⟩
  | get i => exact Or.inr ⟨f, hf, rfl, fun _ => rfl, Or.inr ⟨by simp, rfl⟩⟩
  | set i x =>
    obtain ⟨e, he, rfl⟩ := List.mem_map.mp hf
    refine Or.inr ⟨e, he, ?_⟩
    by_cases hi : e.index = i
    · subst hi
      rw [if_pos rfl]
      exact ⟨rfl, fun _ => rfl, Or.inl ⟨x, rfl, rfl⟩⟩
    · rw [if_neg hi]
      refine ⟨rfl, fun _ => rfl, Or.inr ⟨?_, rfl⟩⟩
      rintro y ⟨⟩
      exact hi rfl
  | erase i =>
    have he := (List.mem_filter.mp hf).1
    exact Or.inr ⟨f, he, rfl, fun _ => rfl, Or.inr ⟨by simp, rfl⟩⟩
  | compact =>
    obtain ⟨i, hi, rfl⟩ := List.mem_mapIdx.mp hf
    refine Or.inr ⟨r.entries[i], List.getElem_mem hi, rfl, ?_, Or.inr ⟨by simp, rfl⟩⟩
    intro hne
    exact (hne rfl).elim
  | clear => exact (List.not_mem_nil hf).elim

theorem Ordered.step (h : r.Ordered) (op : Slots.Op α) : (r.step op).Ordered := by
  cases op with
  | push x =>
    refine ⟨?_, ?_, ?_⟩
    · refine List.pairwise_append.mpr ⟨h.increasing, List.pairwise_singleton _ _, ?_⟩
      intro e he f hf
      obtain rfl := List.mem_singleton.mp hf
      exact ⟨h.serial_lt e he, h.index_lt e he⟩
    · intro f hf
      rcases List.mem_append.mp hf with hf | hf
      · exact Nat.lt_succ_of_lt (h.serial_lt f hf)
      · obtain rfl := List.mem_singleton.mp hf
        exact Nat.lt_succ_self _
    · intro f hf
      rcases List.mem_append.mp hf with hf | hf
      · exact Nat.lt_succ_of_lt (h.index_lt f hf)
      · obtain rfl := List.mem_singleton.mp hf
        exact Nat.lt_succ_self _
  | get i => exact h
  | set i x =>
    have hkeep : ∀ e : Entry α, (if e.index = i then { e with item := x } else e).serial = e.serial ∧
        (if e.index = i then { e with item := x } else e).index = e.index := by
      intro e
      split <;> exact ⟨rfl, rfl⟩
    refine ⟨?_, ?_, ?_⟩
    · refine List.pairwise_map.mpr (h.increasing.imp ?_)
      intro e f hlt
      rw [(hkeep e).1, (hkeep e).2, (hkeep f).1, (hkeep f).2]
      exact hlt
    · intro f hf
      obtain ⟨e, he, rfl⟩ := List.mem_map.mp hf
      rw [(hkeep e).1]
      exact h.serial_lt e he
    · intro f hf
      obtain ⟨e, he, rfl⟩ := List.mem_map.mp hf
      rw [(hkeep e).2]
      exact h.index_lt e he
  | erase i =>
    refine ⟨h.increasing.filter _, ?_, ?_⟩
    · intro f hf
      exact h.serial_lt f (List.mem_filter.mp hf).1
    · intro f hf
      have hrest : (r.entries.filter fun e => e.index ≠ i).isEmpty = false :=
        List.isEmpty_eq_false_iff.mpr (List.ne_nil_of_mem hf)
      have hlt := h.index_lt f (List.mem_filter.mp hf).1
      simp only [Roster.step, erase, hrest]
      exact hlt
  | compact =>
    refine ⟨?_, ?_, ?_⟩
    · rw [List.pairwise_iff_getElem]
      intro i j hi hj hlt
      simp only [Roster.step, List.getElem_mapIdx]
      have hgrows := List.pairwise_iff_getElem.mp h.increasing i j (by simpa [Roster.step] using hi)
        (by simpa [Roster.step] using hj) hlt
      exact ⟨hgrows.1, hlt⟩
    · intro f hf
      obtain ⟨i, hi, rfl⟩ := List.mem_mapIdx.mp hf
      exact h.serial_lt r.entries[i] (List.getElem_mem hi)
    · intro f hf
      obtain ⟨i, hi, rfl⟩ := List.mem_mapIdx.mp hf
      exact hi
  | clear => exact ⟨.nil, by simp [Roster.step], by simp [Roster.step]⟩

theorem ordered_nil : Ordered ({} : Roster α) := ⟨.nil, by simp, by simp⟩

theorem run_append (r : Roster α) (ops more : List (Slots.Op α)) :
    r.run (ops ++ more) = (r.run ops).run more :=
  List.foldl_append

theorem Ordered.run (h : r.Ordered) (ops : List (Slots.Op α)) : (r.run ops).Ordered := by
  induction ops generalizing r with
  | nil => exact h
  | cons op ops ih => exact ih (h.step op)

theorem written_append (n : Nat) (r : Roster α) (ops more : List (Slots.Op α)) :
    r.written n (ops ++ more) = r.written n ops ++ (r.run ops).written n more := by
  induction ops generalizing r with
  | nil => rfl
  | cons op ops ih =>
    rw [List.cons_append, written, written, ih, List.append_assoc]
    rfl

/-- The value of an item is the last one that it was given. -/
theorem getLast?_written (ops : List (Slots.Op α)) (he : e ∈ (run {} ops).entries) :
    (written e.serial {} ops).getLast? = some e.item := by
  induction ops using List.reverseRecOn generalizing e with
  | nil => exact (List.not_mem_nil he).elim
  | append_singleton ops op ih =>
    have hordered := ordered_nil.run ops
    rw [run_append] at he
    rw [written_append]
    change (written e.serial {} ops ++ ((run {} ops).writes e.serial op ++ [])).getLast? = _
    rw [List.append_nil]
    rcases mem_step he with ⟨x, rfl, rfl⟩ | ⟨f, hf, hserial, -, ⟨x, rfl, hitem⟩ | ⟨hne, hitem⟩⟩
    · have hwrites : (run {} ops).writes (run {} ops).pushed (.push x) = [x] := if_pos rfl
      rw [hwrites, List.getLast?_concat]
    · have hwrites : (run {} ops).writes e.serial (.set f.index x) = [x] := by
        refine if_pos (List.any_eq_true.mpr ⟨f, hf, ?_⟩)
        simp [hserial]
      rw [hwrites, List.getLast?_concat, hitem]
    · have hwrites : (run {} ops).writes e.serial op = [] := by
        cases op with
        | push x =>
          have hlt := hordered.serial_lt f hf
          exact if_neg (by omega)
        | set i x =>
          apply if_neg
          intro hany
          obtain ⟨g, hg, hgi⟩ := List.any_eq_true.mp hany
          simp only [decide_eq_true_eq] at hgi
          obtain rfl := hordered.eq_of_serial hg hf (hgi.1.trans hserial)
          exact hne x (congrArg (Slots.Op.set · x) hgi.2.symm)
        | get | erase | compact | clear => rfl
      rw [hwrites, List.append_nil, hserial, hitem]
      exact ih hf

end Roster

namespace Slots

variable {α : Type} {s : Slots α} {r : Roster α} {op : Op α} {ops : List (Op α)} {i : Nat}

/-- The slots hold just what is on the roster. Without an item they have no cells either. -/
structure Tracks (s : Slots α) (r : Roster α) : Prop where
  entries : s.entries = r.entries.map fun e => (e.index, e.item)
  next : s.nextIndex = r.next
  counted : s.Counted
  bare : s.live = 0 → s.cells = []

theorem Tracks.live (h : s.Tracks r) : s.live = r.entries.length := by
  rw [h.counted, ← length_entries, h.entries, List.length_map]

theorem Tracks.held_iff (h : s.Tracks r) {x : α} :
    s.get? i = some x ↔ ∃ e ∈ r.entries, e.index = i ∧ e.item = x := by
  rw [← mem_entries, h.entries, List.mem_map]
  simp only [Prod.mk.injEq]

theorem Tracks.dead (h : s.Tracks r) (hi : ∀ e ∈ r.entries, e.index ≠ i) : s.get? i = none := by
  apply Option.eq_none_iff_forall_ne_some.mpr
  intro x hx
  obtain ⟨e, he, hindex, -⟩ := h.held_iff.mp hx
  exact hi e he hindex

theorem Tracks.get? (h : s.Tracks r) (i : Nat) : s.get? i = r.get? i := by
  rw [Roster.get?]
  cases hf : r.entries.find? fun e => e.index = i with
  | some e =>
    have hindex : e.index = i := by simpa using List.find?_some hf
    exact h.held_iff.mpr ⟨e, List.mem_of_find?_eq_some hf, hindex, rfl⟩
  | none =>
    apply h.dead
    intro e he
    simpa using List.find?_eq_none.mp hf e he

theorem tracks_set (h : s.Tracks r) (i : Nat) (x : α) :
    (s.set i x).Tracks (r.step (.set i x)) := by
  have hentries : (s.set i x).entries =
      (r.step (.set i x)).entries.map fun e => (e.index, e.item) := by
    rw [entries_set, h.entries]
    simp only [Roster.step, List.map_map]
    apply List.map_congr_left
    intro e _
    simp only [Function.comp]
    split <;> simp_all
  cases hi : s.get? i with
  | none =>
    rw [set_of_dead hi] at hentries ⊢
    exact ⟨hentries, h.next, h.counted, h.bare⟩
  | some y =>
    refine ⟨hentries, ?_, counted_set h.counted hi, ?_⟩
    · rw [nextIndex, cells_set hi, List.length_set]
      exact h.next
    · intro hzero
      rw [live_set] at hzero
      rw [cells_set hi, h.bare hzero]
      rfl

/-- With the last item all cells go, so that indexes start over; otherwise no index is given back. -/
theorem erase_cells (h : s.Counted) (hbare : s.live = 0 → s.cells = []) (i : Nat) :
    (s.erase i).Counted ∧ ((s.erase i).live = 0 → (s.erase i).cells = []) ∧
      ((s.erase i).live ≠ 0 → (s.erase i).nextIndex = s.nextIndex) := by
  cases hi : s.get? i with
  | none =>
    rw [erase_of_dead hi]
    exact ⟨h, hbare, fun _ => rfl⟩
  | some x =>
    refine ⟨counted_erase h hi, ?_, ?_⟩
    · intro hzero
      rw [live_erase hi] at hzero
      simp only [erase, hi, if_pos hzero]
    · intro hmore
      rw [live_erase hi] at hmore
      simp only [erase, hi, if_neg hmore, nextIndex, List.length_set]

theorem tracks_erase (h : s.Tracks r) (i : Nat) : (s.erase i).Tracks (r.step (.erase i)) := by
  have hentries : (s.erase i).entries =
      (r.step (.erase i)).entries.map fun e => (e.index, e.item) := by
    rw [entries_erase h.counted, h.entries, List.filter_map]
    rfl
  obtain ⟨hcounted, hbare, hkept⟩ := erase_cells h.counted h.bare i
  have hlive : (s.erase i).live = (r.step (.erase i)).entries.length := by
    rw [hcounted, ← length_entries, hentries, List.length_map]
  refine ⟨hentries, ?_, hcounted, hbare⟩
  simp only [Roster.step, Roster.erase] at hlive ⊢
  split
  · rename_i hempty
    rw [List.isEmpty_iff.mp hempty] at hlive
    rw [nextIndex, hbare hlive]
    rfl
  · rename_i hmore
    rw [hkept, h.next]
    intro hzero
    rw [hzero] at hlive
    exact hmore (List.isEmpty_iff.mpr (List.eq_nil_of_length_eq_zero hlive.symm))

theorem tracks_compact (h : s.Tracks r) : s.compact.Tracks (r.step .compact) := by
  have hentries : s.compact.entries =
      (r.step .compact).entries.map fun e => (e.index, e.item) := by
    rw [entries_compact, h.entries]
    apply List.ext_getElem?
    intro n
    simp only [Roster.step, List.getElem?_map, List.getElem?_mapIdx]
    cases r.entries[n]? <;> rfl
  have hcounted := counted_compact h.counted
  refine ⟨hentries, ?_, hcounted, ?_⟩
  · rw [nextIndex_compact, ← h.counted]
    exact h.live
  · intro hzero
    have hcells : s.cells = [] := h.bare hzero
    simp only [compact, hcells]
    rfl

theorem tracks_nil : Tracks ({} : Slots α) {} := ⟨rfl, rfl, counted_nil, fun _ => rfl⟩

theorem tracks_step (h : s.Tracks r) (op : Op α) : (s.step op).Tracks (r.step op) := by
  cases op with
  | push x =>
    refine ⟨?_, ?_, counted_push h.counted, ?_⟩
    · change (s.push x).entries = _
      rw [entries_push, h.entries, h.next]
      simp only [Roster.step, List.map_append, List.map_cons, List.map_nil]
    · change (s.cells ++ [some x]).length = r.next + 1
      rw [List.length_append, ← h.next]
      rfl
    · intro hzero
      cases hzero
  | get i => exact ⟨h.entries, h.next, h.counted, h.bare⟩
  | set i x => exact tracks_set h i x
  | erase i => exact tracks_erase h i
  | compact => exact tracks_compact h
  | clear => exact ⟨rfl, rfl, counted_nil, fun _ => rfl⟩

theorem tracks_run (h : s.Tracks r) (ops : List (Op α)) : (s.run ops).Tracks (r.run ops) := by
  induction ops generalizing s r with
  | nil => exact h
  | cons op ops ih => exact ih (tracks_step h op)

theorem Tracks.answer (h : s.Tracks r) (op : Op α) : s.answer op = r.answer op := by
  cases op with
  | push => exact congrArg Answer.index h.next
  | get i | set i | erase i => exact congrArg Answer.item (h.get? i)
  | compact | clear => rfl

theorem Tracks.fixed_of_absent (h : s.Tracks r) (hop : op.index? = some i)
    (hi : ∀ e ∈ r.entries, e.index ≠ i) : s.answer op = .item none ∧ s.step op = s := by
  have hnone := h.dead hi
  have hitem : Answer.item (s.get? i) = .item none := congrArg Answer.item hnone
  cases op with
  | get =>
    obtain rfl := Option.some.inj hop
    exact ⟨hitem, rfl⟩
  | set =>
    obtain rfl := Option.some.inj hop
    exact ⟨hitem, set_of_dead hnone _⟩
  | erase =>
    obtain rfl := Option.some.inj hop
    exact ⟨hitem, erase_of_dead hnone⟩
  | push | compact | clear => contradiction

theorem get?_step_of_ne (hc : s.Counted) {j : Nat} (hop : op.index? = some i) (hj : j ≠ i) :
    (s.step op).get? j = s.get? j := by
  cases op with
  | get => rfl
  | set =>
    obtain rfl := Option.some.inj hop
    exact get?_set_of_ne hj _
  | erase =>
    obtain rfl := Option.some.inj hop
    exact (get?_erase hc _ j).trans (if_neg hj)
  | push | compact | clear => contradiction

/-- What a run leaves in the slots, told by the roster of the same run. An index is live if there is
an entry under it. -/
structure Refines (ops : List (Op α)) (s : Slots α) (r : Roster α) : Prop where
  answer : ∀ op, s.answer op = r.answer op
  entries : s.entries = r.entries.map fun e => (e.index, e.item)
  live : s.live = r.entries.length
  /-- The tombstones are what is left of the cells when the live ones are taken off. -/
  cells : s.cells.length = s.live + s.tombstones
  bare : s.live = 0 → s.tombstones = 0
  /-- Entries stand in the order of their pushes and of their indexes. -/
  increasing : r.entries.Pairwise fun e f => e.serial < f.serial ∧ e.index < f.index
  lastWritten : ∀ e ∈ r.entries, (Roster.written e.serial {} ops).getLast? = some e.item
  fresh : ∀ e ∈ r.entries, e.index < s.nextIndex
  absent : ∀ op i, op.index? = some i → (∀ e ∈ r.entries, e.index ≠ i) →
    s.answer op = .item none ∧ s.step op = s
  present : ∀ e ∈ r.entries, s.get? e.index = some e.item ∧
    (∀ x, (s.set e.index x).get? e.index = some x) ∧ (s.erase e.index).get? e.index = none
  apart : ∀ op i j, op.index? = some i → j ≠ i → (s.step op).get? j = s.get? j
  /-- Whatever was pushed keeps its index until a compaction. -/
  stable : ∀ op, op ≠ .compact → ∀ e ∈ r.entries, ∀ f ∈ (r.step op).entries,
    f.serial = e.serial → f.index = e.index
  compacted : s.compact.entries = s.toList.mapIdx Prod.mk

/-- Slots are an ordered map from indexes to items: tombstones never show, an index stands for what
was last written under it, and only a compaction moves what is there. -/
theorem run_refines_roster (ops : List (Op α)) :
    Refines ops (run {} ops) (Roster.run {} ops) := by
  have htracks := tracks_run (tracks_nil (α := α)) ops
  have hordered := Roster.ordered_nil.run ops
  have hcells := htracks.counted.live_le
  refine
    { answer := htracks.answer
      entries := htracks.entries
      live := htracks.live
      cells := ?_
      bare := ?_
      increasing := hordered.increasing
      lastWritten := fun e he => Roster.getLast?_written ops he
      fresh := ?_
      absent := fun op i hop hi => htracks.fixed_of_absent hop hi
      present := ?_
      apart := fun op i j hop hj => get?_step_of_ne htracks.counted hop hj
      stable := ?_
      compacted := ?_ }
  · simp only [tombstones]
    omega
  · intro hzero
    simp only [tombstones, htracks.bare hzero, List.length_nil, Nat.zero_sub]
  · intro e he
    rw [htracks.next]
    exact hordered.index_lt e he
  · intro e he
    have hget := htracks.held_iff.mpr ⟨e, he, rfl, rfl⟩
    exact ⟨hget, get?_set_self hget, (get?_erase htracks.counted _ _).trans (if_pos rfl)⟩
  · intro op hop e he f hf hserial
    rcases Roster.mem_step hf with ⟨x, -, rfl⟩ | ⟨g, hg, hgs, hgi, -⟩
    · -- A new entry has a number of its own.
      have hlt := hordered.serial_lt e he
      simp only at hserial
      omega
    · obtain rfl := hordered.eq_of_serial hg he (hgs.symm.trans hserial)
      exact hgi hop
  · rw [entries_compact]
    apply List.ext_getElem?
    intro n
    simp only [toList, List.getElem?_mapIdx, List.getElem?_map, Option.map_map]
    rfl

/-- The first item goes alone, and all cells with it; later indexes start over and are compacted. -/
def shuffled : List (Op Nat) :=
  [.push 10, .erase 0, .push 20, .push 30, .push 40, .set 2 41, .erase 1, .compact, .set 1 42,
    .erase 2]

theorem shuffled_refines :
    (run {} shuffled).entries = [(0, 20), (1, 42)] ∧
    (Roster.run {} shuffled).entries = [⟨1, 0, 20⟩, ⟨3, 1, 42⟩] ∧
    Roster.written 3 {} shuffled = [40, 41, 42] ∧
    (run {} shuffled).get? 1 = some 42 ∧ (run {} shuffled).step (.erase 2) = run {} shuffled ∧
    ((run {} shuffled).step (.erase 0)).get? 1 = some 42 := by
  have hroster : (Roster.run {} shuffled).entries = [⟨1, 0, 20⟩, ⟨3, 1, 42⟩] := by decide
  have h := run_refines_roster shuffled
  have hmem : (⟨3, 1, 42⟩ : Entry Nat) ∈ (Roster.run {} shuffled).entries := by
    rw [hroster]
    decide
  have hgone : ∀ e ∈ (Roster.run {} shuffled).entries, e.index ≠ 2 := by
    rw [hroster]
    decide
  have hget := (h.present _ hmem).1
  have hentries := h.entries
  rw [hroster] at hentries
  exact ⟨hentries, hroster, by decide, hget, (h.absent (.erase 2) 2 rfl hgone).2,
    (h.apart (.erase 0) 0 1 rfl (by decide)).trans hget⟩

end Slots

end ArenaAlloc
