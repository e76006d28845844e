import ArenaAlloc.Arena.Basic
import ArenaAlloc.Plain

/-! Checking a handle against the live blocks, and the payload behind it. -/
namespace ArenaAlloc.Arena

def invalid (b : Block) : Fault := .invalidBlock b.offset b.len

/-- A handle is good if it equals the live block at its offset. An older or younger generation
counts before a wrong length. -/
def verify (a : Arena) (b : Block) : Except Fault Unit :=
  match a.live.find? b.offset with
  | none => .error (invalid b)
  | some l =>
    if l.generation ≠ b.generation then .error (invalid b)
    else if l.len ≠ b.len then .error (.sizeMismatch b.offset l.len b.len)
    else if l = b then .ok ()
    else .error (invalid b)

/-- The storage that holds a good handle's payload. -/
def storage (a : Arena) (b : Block) : Except Fault Mapping :=
  match a.verify b with
  | .error f => .error f
  | .ok () =>
    match a.mapping with
    | some m => .ok m
    | none => .error (invalid b)

/-- The storage of a good handle, with its payload borrowed. -/
def storageGuarded (a : Arena) (b : Block) : Option (Except Fault Mapping) :=
  match a.storage b with
  | .error f => some (.error f)
  | .ok m => (m.borrowGuarded b.offset b.len).map fun _ => .ok m

def read (a : Arena) (b : Block) : Except Fault (List UInt8) :=
  (a.storage b).map fun m => m.read b.offset b.len

def readGuarded (a : Arena) (b : Block) : Option (Except Fault (List UInt8)) :=
  (a.storageGuarded b).map <| Except.map fun m => m.read b.offset b.len

/-- Stores bytes in the payload from its byte `start` on. What would not fit is left out. -/
def write (a : Arena) (b : Block) (start : Nat) (data : List UInt8) : Except Fault Arena :=
  (a.storage b).map fun m =>
    { a with mapping := some (m.write (b.offset + start) (data.take (b.len - start))) }

def writeGuarded (a : Arena) (b : Block) (start : Nat) (data : List UInt8) :
    Option (Except Fault Arena) :=
  (a.storageGuarded b).map <| Except.map fun m =>
    { a with mapping := some (m.write (b.offset + start) (data.take (b.len - start))) }

/-- The payload as a value; its length has to be that of the layout. -/
def readValue (a : Arena) (l : Layout) (b : Block) : Except Fault (List Int) :=
  match a.read b with
  | .error f => .error f
  | .ok bytes =>
    if bytes.length = l.size then .ok (l.decode bytes)
    else .error (.sizeMismatch b.offset b.len l.size)

/-- The bytes are turned into a value only if their number is right. -/
def readValueGuarded (a : Arena) (l : Layout) (b : Block) : Option (Except Fault (List Int)) := do
  match ← a.readGuarded b with
  | .error f => return .error f
  | .ok bytes =>
    if bytes.length = l.size then
      ensure (bytes.length = l.size)
      return .ok (l.decode bytes)
    else return .error (.sizeMismatch b.offset b.len l.size)

/-- Address of the first payload byte, until storage moves. -/
def address (a : Arena) (b : Block) : Except Fault Nat :=
  (a.storage b).map fun m => m.base + b.offset

def addressGuarded (a : Arena) (b : Block) : Option (Except Fault Nat) :=
  match a.storage b with
  | .error f => some (.error f)
  | .ok m => (Word.add? m.base b.offset).map .ok

end ArenaAlloc.Arena
