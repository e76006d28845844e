import ArenaAlloc.Chain.Basic

/-! Allocation from a chain: the current segment if the block fits, else a new segment. -/
namespace ArenaAlloc.Chain

/-- The next block of the current segment. An oversized block never comes from there. -/
def bump? (c : Chain) (size align : Nat) : Option (Nat × Segment) :=
  if c.settings.segment < size then none
  else c.segments[c.current]?.bind (·.bump? size align)

def bumpGuarded? (c : Chain) (size align : Nat) : Option (Option (Nat × Segment)) :=
  if c.settings.segment < size then some none
  else
    match c.segments[c.current]? with
    | none => some none
    | some s => s.bumpGuarded? size align

/-- A new segment and the offset of the block in it. An oversized block gets a segment of exactly
its size. -/
def start (k : Kernel) (c : Chain) (size align : Nat) : Except Fault (Nat × Segment) :=
  match Segment.create k (max size c.settings.segment) with
  | .error f => .error f
  | .ok s =>
    match s.bump? size align with
    | some r => .ok r
    | none => .error (.allocationFailed size)

def startGuarded (k : Kernel) (c : Chain) (size align : Nat) :
    Option (Except Fault (Nat × Segment)) := do
  match ← Mapping.createGuarded k (max size c.settings.segment) with
  | .error f => return .error f
  | .ok m =>
    match ← Segment.bumpGuarded? { mapping := m } size align with
    | some r => return .ok r
    | none => return .error (.allocationFailed size)

def place (k : Kernel) (c : Chain) (size align : Nat) : Reply Chain (Except Fault Placement) :=
  match c.bump? size align with
  | some (offset, s) =>
    { state := { c with
        segments := c.segments.set c.current s
        allocations := c.allocations + 1 }
      result := .ok ⟨c.current, offset, size⟩ }
  | none =>
    match c.start k size align with
    | .error f => .fail c f
    | .ok (offset, s) =>
      let index := c.segments.length
      { state := { c with
          segments := c.segments ++ [s]
          current := index
          allocations := c.allocations + 1 }
        result := .ok ⟨index, offset, size⟩
        events := [.segmentStarted index s.capacity (c.settings.segment < size)] }

def placeGuarded (k : Kernel) (c : Chain) (size align : Nat) :
    Option (Reply Chain (Except Fault Placement)) := do
  match ← c.bumpGuarded? size align with
  | some (offset, s) =>
    let allocations ← Word.add? c.allocations 1
    return {
      state := { c with segments := c.segments.set c.current s, allocations }
      result := .ok ⟨c.current, offset, size⟩ }
  | none =>
    match ← c.startGuarded k size align with
    | .error f => return .fail c f
    | .ok (offset, s) =>
      let segments := c.segments ++ [s]
      let index ← Word.sub? segments.length 1
      let allocations ← Word.add? c.allocations 1
      return {
        state := { c with segments, current := index, allocations }
        result := .ok ⟨index, offset, size⟩
        events := [.segmentStarted index s.capacity (c.settings.segment < size)] }

/-- Allocates as the alignment state says, and never less aligned than `align`. An empty request
does not spend that state. -/
def allocAt (k : Kernel) (c : Chain) (size align : Nat) : Reply Chain (Except Fault Placement) :=
  if size = 0 then .fail c .zeroSizedRequest
  else
    place k { c with alignment := c.alignment.spend } size
      (max align (Alignment.boundary c.alignment.aligns))

def allocAtGuarded (k : Kernel) (c : Chain) (size align : Nat) :
    Option (Reply Chain (Except Fault Placement)) :=
  if size = 0 then some (.fail c .zeroSizedRequest)
  else
    placeGuarded k { c with alignment := c.alignment.spend } size
      (max align (Alignment.boundary c.alignment.aligns))

def alloc (k : Kernel) (c : Chain) (size : Nat) : Reply Chain (Except Fault Placement) :=
  c.allocAt k size 1

/-- Allocates a block for a value, aligned for it, and stores it there. -/
def allocValue (k : Kernel) (c : Chain) (l : Layout) (v : List Int) :
    Reply Chain (Except Fault Placement) :=
  let r := c.allocAt k l.size l.alignment
  match r.result with
  | .error _ => r
  | .ok p => { r with state := r.state.write p 0 (l.encode v) }

/-- A reference to the value is made only of an aligned payload of just its length. -/
def allocValueGuarded (k : Kernel) (c : Chain) (l : Layout) (v : List Int) :
    Option (Reply Chain (Except Fault Placement)) := do
  let r ← c.allocAtGuarded k l.size l.alignment
  match r.result with
  | .error _ => return r
  | .ok p =>
    ensure (r.state.address p % l.alignment = 0)
    ensure (p.len = l.size)
    return { r with state := r.state.write p 0 (l.encode v) }

end ArenaAlloc.Chain
