import Mathlib.Data.List.Basic
import ArenaAlloc.Slots

/-! Slots seen as the list of their items: what an index stands for, and what each change does. -/
namespace ArenaAlloc.Slots

variable {α : Type} {s : Slots α} {i j : Nat} {x y : α}

/-- The counter tells the number of items. -/
def Counted (s : Slots α) : Prop := s.live = s.toList.length

/-- The items in front of an index. -/
def ahead (s : Slots α) (i : Nat) : List α := (s.cells.take i).filterMap id

/-- The items behind an index. -/
def behind (s : Slots α) (i : Nat) : List α := (s.cells.drop (i + 1)).filterMap id

theorem get?_eq_some_iff : s.get? i = some x ↔ s.cells[i]? = some (some x) := by
  simp only [get?, Option.join_eq_some_iff]

theorem lt_of_get? (h : s.get? i = some x) : i < s.cells.length :=
  (List.getElem?_eq_some_iff.mp (get?_eq_some_iff.mp h)).1

theorem mem_entriesFrom {cs : List (Option α)} :
    (i, x) ∈ entriesFrom j cs ↔ j ≤ i ∧ cs[i - j]? = some (some x) := by
  induction cs generalizing j with
  | nil => simp [entriesFrom]
  | cons c cs ih =>
    -- Index `j` is the head's; any later index is one of the tail's.
    have htail : (i, x) ∈ entriesFrom (j + 1) cs ↔
        j < i ∧ (c :: cs)[i - j]? = some (some x) := by
      rw [ih]
      refine and_congr_right fun hj => ?_
      rw [show i - j = i - (j + 1) + 1 by omega, List.getElem?_cons_succ]
    by_cases hij : i = j
    · subst i
      cases c <;> simp_all [entriesFrom, eq_comm]
    · have hlt : j < i ↔ j ≤ i := by omega
      cases c <;> simp_all [entriesFrom]

theorem mem_entries : (i, x) ∈ s.entries ↔ s.get? i = some x := by
  rw [entries, mem_entriesFrom, get?_eq_some_iff]
  simp

theorem entriesFrom_split {cs : List (Option α)} {front back : List (Nat × α)}
    (h : entriesFrom j cs = front ++ (i, x) :: back) :
    ∃ n, i = j + n ∧ (cs.take n).filterMap id = front.map Prod.snd ∧
      (cs.drop (n + 1)).filterMap id = back.map Prod.snd := by
  induction cs generalizing j front with
  | nil => simp [entriesFrom] at h
  | cons c cs ih =>
    cases c with
    | none =>
      obtain ⟨n, rfl, hfront, hback⟩ := ih h
      exact ⟨n + 1, by omega, by simpa using hfront, by simpa using hback⟩
    | some y =>
      rw [entriesFrom] at h
      cases front with
      | nil =>
        obtain ⟨hhead, rfl⟩ := List.cons.inj h
        obtain ⟨rfl, rfl⟩ := Prod.mk.inj hhead
        exact ⟨0, rfl, rfl, by simp [entriesFrom_map_snd]⟩
      | cons e front =>
        obtain ⟨rfl, htail⟩ := List.cons.inj h
        obtain ⟨n, rfl, hfront, hback⟩ := ih htail
        exact ⟨n + 1, by omega, by simpa using hfront, by simpa using hback⟩

/-- Where an entry stands among all others is where its item stands among the items. -/
theorem ahead_behind_of_split {front back : List (Nat × α)}
    (h : s.entries = front ++ (i, x) :: back) :
    s.ahead i = front.map Prod.snd ∧ s.behind i = back.map Prod.snd := by
  obtain ⟨n, hi, hfront, hback⟩ := entriesFrom_split h
  obtain rfl : i = n := by omega
  exact ⟨hfront, hback⟩

theorem toList_split (h : s.get? i = some x) : s.toList = s.ahead i ++ x :: s.behind i := by
  obtain ⟨hi, hx⟩ := List.getElem?_eq_some_iff.mp (get?_eq_some_iff.mp h)
  have hcells : s.cells = s.cells.take i ++ some x :: s.cells.drop (i + 1) := by
    rw [← hx, List.getElem_cons_drop, List.take_append_drop]
  rw [toList_eq_filterMap, hcells]
  simp [ahead, behind]

theorem toList_set (h : s.get? i = some x) : (s.set i y).toList = s.ahead i ++ y :: s.behind i := by
  have hi := lt_of_get? h
  rw [toList_eq_filterMap]
  simp [set, h, List.set_eq_take_append_cons_drop, hi, ahead, behind]

theorem length_toList (h : s.get? i = some x) :
    s.toList.length = (s.ahead i).length + (s.behind i).length + 1 := by
  rw [toList_split h, List.length_append, List.length_cons, Nat.add_assoc]

theorem set_of_dead (h : s.get? i = none) (y : α) : s.set i y = s := by
  simp only [set, h]

theorem erase_of_dead (h : s.get? i = none) : s.erase i = s := by
  simp only [erase, h]

theorem cells_set (h : s.get? i = some x) (y : α) : (s.set i y).cells = s.cells.set i (some y) := by
  simp only [set, h]

theorem live_erase (h : s.get? i = some x) : (s.erase i).live = s.live - 1 := by
  by_cases hlast : s.live - 1 = 0 <;> simp [erase, h, hlast]

theorem live_set (i : Nat) (y : α) : (s.set i y).live = s.live := by
  simp only [set]
  split <;> rfl

theorem tombstones_push (s : Slots α) (x : α) : (s.push x).tombstones = s.tombstones := by
  simp only [tombstones, push, List.length_append, List.length_singleton, Nat.add_sub_add_right]

theorem tombstones_set (i : Nat) (y : α) : (s.set i y).tombstones = s.tombstones := by
  simp only [tombstones, set]
  split
  · rw [List.length_set]
  · rfl

theorem Counted.live_le (hc : s.Counted) : s.live ≤ s.cells.length := by
  rw [hc, toList_eq_filterMap]
  exact List.length_filterMap_le _ _

theorem counted_nil : Counted ({} : Slots α) := rfl

theorem counted_push (hc : s.Counted) : (s.push x).Counted := by
  rw [Counted, toList_push, List.length_append, ← hc]
  rfl

theorem counted_set (hc : s.Counted) (h : s.get? i = some x) : (s.set i y).Counted := by
  rw [Counted, live_set, hc, toList_set h, toList_split h]
  simp

theorem counted_compact (hc : s.Counted) : s.compact.Counted := by
  rw [Counted, toList_compact]
  exact hc

theorem entriesFrom_append (j : Nat) (cs ds : List (Option α)) :
    entriesFrom j (cs ++ ds) = entriesFrom j cs ++ entriesFrom (j + cs.length) ds := by
  induction cs generalizing j with
  | nil => rfl
  | cons c cs ih =>
    have hshift : j + (c :: cs).length = j + 1 + cs.length := by
      rw [List.length_cons]
      omega
    rw [hshift]
    cases c with
    | none => exact ih (j + 1)
    | some x => exact congrArg (List.cons (j, x)) (ih (j + 1))

theorem entriesFrom_cons (j : Nat) (c : Option α) (cs : List (Option α)) :
    entriesFrom j (c :: cs) = (c.map (Prod.mk j)).toList ++ entriesFrom (j + 1) cs := by
  cases c <;> rfl

/-- The entries in front of a live index and behind it, which stay whatever its cell comes to hold. -/
theorem entries_around (h : s.get? i = some x) :
    ∃ front back, s.entries = front ++ (i, x) :: back ∧ (∀ e ∈ front, e.1 < i) ∧
      (∀ e ∈ back, i < e.1) ∧
      ∀ c, entriesFrom 0 (s.cells.set i c) = front ++ ((c.map (Prod.mk i)).toList ++ back) := by
  obtain ⟨hi, hx⟩ := List.getElem?_eq_some_iff.mp (get?_eq_some_iff.mp h)
  have hset : ∀ c, entriesFrom 0 (s.cells.set i c) = entriesFrom 0 (s.cells.take i) ++
      ((c.map (Prod.mk i)).toList ++ entriesFrom (i + 1) (s.cells.drop (i + 1))) := by
    intro c
    have hlen : (s.cells.take i).length = i := List.length_take_of_le (Nat.le_of_lt hi)
    rw [List.set_eq_take_append_cons_drop, if_pos hi, entriesFrom_append, hlen, Nat.zero_add,
      entriesFrom_cons]
  have hself : s.cells.set i (some x) = s.cells := by
    rw [← hx]
    exact List.set_getElem_self hi
  refine ⟨_, _, ?_, ?_, ?_, hset⟩
  · have hentries := hset (some x)
    rw [hself] at hentries
    exact hentries
  · rintro ⟨p, y⟩ he
    obtain ⟨-, hp⟩ := mem_entriesFrom.mp he
    have hlt := (List.getElem?_eq_some_iff.mp hp).1
    rw [List.length_take] at hlt
    change p < i
    omega
  · rintro ⟨p, y⟩ he
    exact (mem_entriesFrom.mp he).1

theorem index_ne_of_dead {e : Nat × α} (h : s.get? i = none) (he : e ∈ s.entries) : e.1 ≠ i := by
  rintro rfl
  rw [mem_entries.mp he] at h
  contradiction

theorem entries_push (s : Slots α) (x : α) : (s.push x).entries = s.entries ++ [(s.nextIndex, x)] := by
  rw [entries, push, entriesFrom_append, Nat.zero_add]
  rfl

/-- Nothing is replaced under an index that no entry has. -/
theorem map_replace_of_ne {es : List (Nat × α)} (h : ∀ e ∈ es, e.1 ≠ i) :
    es.map (fun e => if e.1 = i then (i, y) else e) = es := by
  have hkeep : ∀ e ∈ es, (if e.1 = i then (i, y) else e) = id e := fun e he => if_neg (h e he)
  rw [List.map_congr_left hkeep, List.map_id]

theorem entries_set (s : Slots α) (i : Nat) (y : α) :
    (s.set i y).entries = s.entries.map fun e => if e.1 = i then (i, y) else e := by
  cases h : s.get? i with
  | none =>
    rw [set_of_dead h, map_replace_of_ne fun e he => index_ne_of_dead h he]
  | some x =>
    obtain ⟨front, back, hentries, hfront, hback, hset⟩ := entries_around h
    have hahead := map_replace_of_ne (y := y) fun e he => Nat.ne_of_lt (hfront e he)
    have hbehind := map_replace_of_ne (y := y) fun e he => Nat.ne_of_gt (hback e he)
    rw [entries, cells_set h, hset, hentries, List.map_append, List.map_cons, if_pos rfl, hahead,
      hbehind]
    rfl

theorem length_entries (s : Slots α) : s.entries.length = s.toList.length :=
  (List.length_map _).symm

/-- The cells go all at once only with the last item, so no other item is lost. -/
theorem entries_erase_around (hc : s.Counted) (h : s.get? i = some x) :
    ∃ front back, s.entries = front ++ (i, x) :: back ∧ (∀ e ∈ front, e.1 < i) ∧
      (∀ e ∈ back, i < e.1) ∧ (s.erase i).entries = front ++ back := by
  obtain ⟨front, back, hentries, hfront, hback, hset⟩ := entries_around h
  refine ⟨front, back, hentries, hfront, hback, ?_⟩
  by_cases hlast : s.live - 1 = 0
  · have hlen := s.length_entries
    rw [← hc, hentries, List.length_append, List.length_cons] at hlen
    obtain rfl : front = [] := List.eq_nil_of_length_eq_zero (by omega)
    obtain rfl : back = [] := List.eq_nil_of_length_eq_zero (by omega)
    simp only [erase, h, if_pos hlast]
    rfl
  · simp only [erase, h, if_neg hlast]
    exact hset none

theorem toList_erase (hc : s.Counted) (h : s.get? i = some x) :
    (s.erase i).toList = s.ahead i ++ s.behind i := by
  obtain ⟨front, back, hentries, -, -, herase⟩ := entries_erase_around hc h
  obtain ⟨hahead, hbehind⟩ := ahead_behind_of_split hentries
  rw [toList, herase, List.map_append, hahead, hbehind]

theorem counted_erase (hc : s.Counted) (h : s.get? i = some x) : (s.erase i).Counted := by
  rw [Counted, live_erase h, toList_erase hc h, hc, length_toList h]
  simp

theorem entries_erase (hc : s.Counted) (i : Nat) :
    (s.erase i).entries = s.entries.filter (·.1 ≠ i) := by
  cases h : s.get? i with
  | none =>
    rw [erase_of_dead h]
    symm
    apply List.filter_eq_self.mpr
    intro e he
    simpa using index_ne_of_dead h he
  | some x =>
    obtain ⟨front, back, hentries, hfront, hback, herase⟩ := entries_erase_around hc h
    have hahead : front.filter (·.1 ≠ i) = front := by
      apply List.filter_eq_self.mpr
      intro e he
      simpa using Nat.ne_of_lt (hfront e he)
    have hbehind : back.filter (·.1 ≠ i) = back := by
      apply List.filter_eq_self.mpr
      intro e he
      simpa using Nat.ne_of_gt (hback e he)
    rw [herase, hentries, List.filter_append, List.filter_cons_of_neg (by simp), hahead, hbehind]

theorem entriesFrom_filter (j p : Nat) (cs : List (Option α)) :
    entriesFrom j (cs.filter Option.isSome) =
      (entriesFrom p cs).mapIdx fun n e => (j + n, e.2) := by
  induction cs generalizing j p with
  | nil => rfl
  | cons c cs ih =>
    cases c with
    | none => exact ih j (p + 1)
    | some x =>
      have hshift : (fun n (e : Nat × α) => (j + (n + 1), e.2)) = fun n e => (j + 1 + n, e.2) := by
        funext n e
        rw [Nat.add_assoc, Nat.add_comm 1 n]
      have hrest := ih (j + 1) (p + 1)
      rw [← hshift] at hrest
      rw [List.filter_cons_of_pos rfl, entriesFrom, entriesFrom, hrest, List.mapIdx_cons]
      rfl

/-- The items keep their order and are counted from zero. -/
theorem entries_compact (s : Slots α) :
    s.compact.entries = s.entries.mapIdx fun n e => (n, e.2) := by
  have hfilter := entriesFrom_filter 0 0 s.cells
  simp only [Nat.zero_add] at hfilter
  exact hfilter

/-- After compaction every cell holds an item. -/
theorem nextIndex_compact (s : Slots α) : s.compact.nextIndex = s.toList.length := by
  rw [toList_eq_filterMap, nextIndex, compact]
  induction s.cells with
  | nil => rfl
  | cons c cs ih =>
    cases c with
    | none => exact ih
    | some x => exact congrArg Nat.succ ih

theorem tombstones_compact (hc : s.Counted) : s.compact.tombstones = 0 := by
  have hcells : s.compact.cells.length = s.toList.length := nextIndex_compact s
  have hlive : s.compact.live = s.toList.length := hc
  simp only [tombstones, hcells, hlive, Nat.sub_self]

theorem get?_set_self (h : s.get? i = some x) (y : α) : (s.set i y).get? i = some y := by
  apply get?_eq_some_iff.mpr
  rw [cells_set h, List.getElem?_set_self (lt_of_get? h)]

theorem get?_set_of_ne (hj : j ≠ i) (y : α) : (s.set i y).get? j = s.get? j := by
  simp only [set]
  split
  · simp only [get?, List.getElem?_set_ne hj.symm]
  · rfl

theorem get?_erase (hc : s.Counted) (i j : Nat) :
    (s.erase i).get? j = if j = i then none else s.get? j := by
  apply Option.ext
  intro z
  rw [← mem_entries, entries_erase hc, List.mem_filter, mem_entries]
  by_cases hj : j = i <;> simp [hj]

end ArenaAlloc.Slots
