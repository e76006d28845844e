import ArenaAlloc.Arena.Handle

/-! Allocation: a released span if one fits, else fresh bytes past the high-water mark. -/
namespace ArenaAlloc.Arena

/-- Records a new block under the next generation. -/
def issue (a : Arena) (offset len padding : Nat) (events : List Event) :
    Reply Arena (Except Fault Block) :=
  let b : Block := ⟨offset, len, padding, a.nextGeneration⟩
  { state := { a with live := a.live.insert b, nextGeneration := a.nextGeneration + 1 }
    result := .ok b
    events }

/-- Issues a block from the front of a free span. -/
def reuse (a : Arena) (f : Fit) (size : Nat) : Reply Arena (Except Fault Block) :=
  issue { a with freeList := a.freeList.carve f size } f.start size f.padding
    [.reused f.start size f.span.size]

/-- Makes room for `needed` bytes past the mark. A capacity that is too small is doubled and then
raised by the whole need; after a teardown it is at least the initial one. -/
def makeRoom (k : Kernel) (a : Arena) (needed : Nat) : Except Fault (Arena × List Event) :=
  if needed ≤ a.capacity - a.used then .ok (a, [])
  else
    let wanted := 2 * a.capacity + needed
    if Word.limit ≤ wanted then .error (.capacityOverflow needed)
    else
      match a.mapping with
      | some m =>
        (m.grow k wanted a.used).map fun m' =>
          ({ a with mapping := some m' }, [.grew a.capacity wanted])
      | none =>
        (Mapping.create k (max wanted a.settings.effectiveInitial)).map fun m =>
          ({ a with mapping := some m }, [.recreated m.capacity])

def makeRoomGuarded (k : Kernel) (a : Arena) (needed : Nat) :
    Option (Except Fault (Arena × List Event)) := do
  let room ← Word.sub? a.capacity a.used
  if needed ≤ room then return .ok (a, [])
  else
    let wanted := 2 * a.capacity + needed
    if Word.limit ≤ wanted then return .error (.capacityOverflow needed)
    else
      match a.mapping with
      | some m =>
        (m.growGuarded k wanted a.used).map <| Except.map fun m' =>
          ({ a with mapping := some m' }, [.grew a.capacity wanted])
      | none =>
        let capacity := max wanted a.settings.effectiveInitial
        (Mapping.createGuarded k capacity).map <| Except.map fun m =>
          ({ a with mapping := some m }, [.recreated m.capacity])

/-- Issues a block at the high-water mark. -/
def extend (k : Kernel) (a : Arena) (size align : Nat) : Reply Arena (Except Fault Block) :=
  let padding := Word.padding a.used align
  let needed := padding + size
  if Word.limit ≤ needed then .fail a (.capacityOverflow size)
  else
    match a.makeRoom k needed with
    | .error f => .fail a f
    | .ok (a', events) =>
      issue { a' with used := a.used + needed } (a.used + padding) size padding events

def extendGuarded (k : Kernel) (a : Arena) (size align : Nat) :
    Option (Reply Arena (Except Fault Block)) := do
  let padding ← Word.paddingGuarded a.used align
  match Word.add? padding size with
  | none => return .fail a (.capacityOverflow size)
  | some needed =>
    match ← a.makeRoomGuarded k needed with
    | .error f => return .fail a f
    | .ok (a', events) =>
      let offset ← Word.add? a.used padding
      let used ← Word.add? a.used needed
      return issue { a' with used } offset size padding events

def place (k : Kernel) (a : Arena) (size align : Nat) : Reply Arena (Except Fault Block) :=
  match a.freeList.bestFit? size align with
  | some f => a.reuse f size
  | none => a.extend k size align

/-- Where nothing is released, nothing is searched. -/
def fitGuarded? (a : Arena) (size align : Nat) : Option (Option Fit) :=
  if a.freeList.length = 0 then some none else a.freeList.bestFitGuarded? size align

def placeGuarded (k : Kernel) (a : Arena) (size align : Nat) :
    Option (Reply Arena (Except Fault Block)) := do
  match ← a.fitGuarded? size align with
  | some f =>
    let (offset, freeList) ← a.freeList.carveGuarded f size
    return issue { a with freeList } offset size f.padding [.reused offset size f.span.size]
  | none => a.extendGuarded k size align

/-- Allocates as the alignment state says. An empty request does not spend that state. -/
def alloc (k : Kernel) (a : Arena) (size : Nat) : Reply Arena (Except Fault Block) :=
  if size = 0 then .fail a .zeroSizedRequest
  else
    place k { a with alignment := a.alignment.spend } size (Alignment.boundary a.alignment.aligns)

def allocGuarded (k : Kernel) (a : Arena) (size : Nat) :
    Option (Reply Arena (Except Fault Block)) :=
  if size = 0 then some (.fail a .zeroSizedRequest)
  else
    placeGuarded k { a with alignment := a.alignment.spend } size
      (Alignment.boundary a.alignment.aligns)

/-- Allocates a word-aligned block and leaves the alignment state alone. -/
def allocAligned (k : Kernel) (a : Arena) (size : Nat) : Reply Arena (Except Fault Block) :=
  if size = 0 then .fail a .zeroSizedRequest else a.place k size (Alignment.boundary true)

def allocAlignedGuarded (k : Kernel) (a : Arena) (size : Nat) :
    Option (Reply Arena (Except Fault Block)) :=
  if size = 0 then some (.fail a .zeroSizedRequest)
  else a.placeGuarded k size (Alignment.boundary true)

/-- Allocates a block for a value and stores it there. -/
def allocValue (k : Kernel) (a : Arena) (l : Layout) (v : List Int) :
    Reply Arena (Except Fault Block) :=
  let r := a.alloc k l.size
  match r.result with
  | .error _ => r
  | .ok b =>
    match r.state.write b 0 (l.encode v) with
    | .error f => { r with result := .error f }
    | .ok a' => { r with state := a' }

/-- The value is copied over a payload of just its length. -/
def allocValueGuarded (k : Kernel) (a : Arena) (l : Layout) (v : List Int) :
    Option (Reply Arena (Except Fault Block)) := do
  let r ← a.allocGuarded k l.size
  match r.result with
  | .error _ => return r
  | .ok b =>
    match ← r.state.writeGuarded b 0 (l.encode v) with
    | .error f => return { r with result := .error f }
    | .ok a' =>
      ensure ((l.encode v).length = b.len)
      return { r with state := a' }

end ArenaAlloc.Arena
