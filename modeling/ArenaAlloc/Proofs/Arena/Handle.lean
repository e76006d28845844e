import ArenaAlloc.Arena.Release

/-! What the check of a handle tells: it accepts the live block itself, and nothing else. -/
namespace ArenaAlloc.Arena

variable {a : Arena} {b : Block} {f : Fault}

theorem verify_eq_ok_iff : a.verify b = .ok () ↔ a.live.find? b.offset = some b := by
  simp only [verify]
  cases h : a.live.find? b.offset with
  | none => simp
  | some l =>
    simp only [Option.some.injEq]
    constructor
    · intro hv
      split at hv
      · contradiction
      split at hv
      · contradiction
      split at hv
      · assumption
      · contradiction
    · rintro rfl
      simp

theorem violation_of_verify (h : a.verify b = .error f) : f.isConsistencyViolation = true := by
  simp only [verify] at h
  split at h
  · cases h
    rfl
  split at h
  · cases h
    rfl
  split at h
  · cases h
    rfl
  split at h
  · cases h
  · cases h
    rfl

/-- A refused release is told as a misused handle too, whichever fault it turns into. -/
theorem violation_of_refusal (h : f.isConsistencyViolation = true) :
    (a.refusal b f).isConsistencyViolation = true := by
  cases f with
  | invalidBlock o n =>
    simp only [refusal]
    split <;> rfl
  | sizeMismatch | doubleFree => rfl
  | allocationFailed | capacityOverflow | zeroSizedRequest | invalidConfig => contradiction

theorem storage_of_verify_error (h : a.verify b = .error f) : a.storage b = .error f := by
  simp only [storage, h]

theorem storage_eq_ok_iff {m : Mapping} :
    a.storage b = .ok m ↔ a.verify b = .ok () ∧ a.mapping = some m := by
  simp only [storage]
  cases a.verify b with
  | error f => simp
  | ok =>
    cases a.mapping with
    | none => simp
    | some m' => simp

theorem read_of_storage {m : Mapping} (h : a.storage b = .ok m) :
    a.read b = .ok (m.read b.offset b.len) := by
  simp only [read, h, Except.map]

theorem free_of_verify (h : a.verify b = .ok ()) : a.free b = a.release b := by
  simp only [free, h]

theorem free_of_verify_error (h : a.verify b = .error f) :
    (a.free b).result = .error (a.refusal b f) ∧ (a.free b).state = a := by
  simp only [free, h, and_self]

theorem release_result (a : Arena) (b : Block) : (a.release b).result = .ok () := by
  simp only [release]
  split <;> rfl

end ArenaAlloc.Arena
