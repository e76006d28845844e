import ArenaAlloc.Arena.Handle

/-! Release of a block: the mark comes down if the block ends there, else a free span appears. -/
namespace ArenaAlloc.Arena

/-- Whether a refused handle names memory that was given up: its offset lies in a free span, or a
younger block starts there. -/
def wasReleased (a : Arena) (b : Block) : Bool :=
  (b.offset < a.used && a.freeList.covers b.offset) ||
    (a.live.find? b.offset).any fun l => b.generation < l.generation

def wasReleasedGuarded (a : Arena) (b : Block) : Option Bool := do
  let covered ← if b.offset < a.used then a.freeList.coversGuarded b.offset else some false
  return covered || (a.live.find? b.offset).any fun l => b.generation < l.generation

/-- The fault of a refused release. -/
def refusal (a : Arena) (b : Block) : Fault → Fault
  | .invalidBlock o n => if a.wasReleased b then .doubleFree o else .invalidBlock o n
  | f => f

def refusalGuarded (a : Arena) (b : Block) : Fault → Option Fault
  | .invalidBlock o n => (a.wasReleasedGuarded b).map fun released =>
    if released then .doubleFree o else .invalidBlock o n
  | f => some f

/-- Overwrites a block's bytes, if the settings ask for it. -/
def scrub (a : Arena) (b : Block) : Option Mapping :=
  if a.settings.zeroOnFree then a.mapping.map (·.zero b.extent.offset b.extent.size)
  else a.mapping

def scrubGuarded (a : Arena) (e : Span) : Option (Option Mapping) :=
  match a.settings.zeroOnFree, a.mapping with
  | true, some m => (m.zeroGuarded e.offset e.size).map some
  | _, m => some m

/-- Takes back a block that is known to be live. -/
def release (a : Arena) (b : Block) : Reply Arena (Except Fault Unit) :=
  let e := b.extent
  let a' := { a with live := a.live.erase b.offset, mapping := a.scrub b }
  if b.stop = a.used then
    { state := { a' with used := e.offset }
      result := .ok ()
      events := [.retracted e.offset e.size e.offset] }
  else
    { state := { a' with freeList := a.freeList.insert e }
      result := .ok ()
      events := [.released e.offset e.size (a.freeList.insert e).length] }

def releaseGuarded (a : Arena) (b : Block) : Option (Reply Arena (Except Fault Unit)) := do
  let e ← b.extentGuarded
  let mapping ← a.scrubGuarded e
  let stop ← b.stopGuarded
  let a' := { a with live := a.live.erase b.offset, mapping }
  if stop = a.used then
    return {
      state := { a' with used := e.offset }
      result := .ok ()
      events := [.retracted e.offset e.size e.offset] }
  else
    let freeList ← a.freeList.insertGuarded e
    return {
      state := { a' with freeList }
      result := .ok ()
      events := [.released e.offset e.size freeList.length] }

def free (a : Arena) (b : Block) : Reply Arena (Except Fault Unit) :=
  match a.verify b with
  | .ok () => a.release b
  | .error f =>
    { state := a
      result := .error (a.refusal b f)
      events := [.rejectedFree b.offset b.len (a.refusal b f)] }

def freeGuarded (a : Arena) (b : Block) : Option (Reply Arena (Except Fault Unit)) :=
  match a.verify b with
  | .ok () => a.releaseGuarded b
  | .error f => (a.refusalGuarded b f).map fun f' =>
    { state := a, result := .error f', events := [.rejectedFree b.offset b.len f'] }

end ArenaAlloc.Arena
