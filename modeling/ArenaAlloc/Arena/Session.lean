import ArenaAlloc.Arena.Run
import ArenaAlloc.Reply

/-! Several arenas side by side, driven by commands that name arenas and handles by number. A handle
of one arena can be given to another. -/
namespace ArenaAlloc.Arena

open ArenaAlloc.Session

structure Session where
  arenas : List (Nat × Arena) := []
  handles : Handles Block := #[]

namespace Session

/-- What can be asked of an arena. -/
inductive Query where
  | usage
  | describe
  | settings
  | spans

/-- What can be asked about the payload behind a handle. -/
inductive Probe where
  /-- Its bytes from `start` on, at most `count` of them if that is given. -/
  | bytes (start : Nat) (count : Option Nat)
  | digest
  | value (l : Layout)
  /-- Its address within the page and its first byte. -/
  | position

inductive Command where
  | create (arena : Nat) (s : Settings)
  | drop (arena : Nat)
  | apply (arena : Nat) (op : Op Nat)
  /-- Writes one byte all over a payload. -/
  | fill (arena b : Nat) (byte : UInt8)
  | ask (arena : Nat) (q : Query)
  | inspect (arena b : Nat) (p : Probe)
  | same (b c : Nat)
  | display (b : Nat)

inductive Answer where
  | done
  | flag (b : Bool)
  | issued (b : Block)
  | block (b : Block)
  | usage (u : Usage)
  | text (t : String)
  | texts (ts : List String)
  | bytes (bs : List UInt8)
  | digest (len : Nat) (sum : UInt32)
  | value (v : List Int)
  | position (inPage : Nat) (first : UInt8)

variable (s : Session)

def arena? (i : Nat) : Option Arena := s.arenas.lookup i

def remove (i : Nat) : Session := { s with arenas := s.arenas.filter (·.1 != i) }

def put (i : Nat) (a : Arena) : Session := { s with arenas := (i, a) :: (s.remove i).arenas }

def note (b : Option Block) : Session := { s with handles := s.handles.push b }

/-- Notes the outcome of an operation that asks for a block. -/
def noteIf (asked : Bool) (b : Option Block) : Session := if asked then s.note b else s

def ask (a : Arena) : Query → Answer
  | .usage => .usage a.usage
  | .describe => .text a.describe
  | .settings => .text a.settings.describe
  | .spans => .texts (a.freeList.spans.map Span.describe)

def inspect (a : Arena) (b : Block) : Probe → Except Fault Answer
  | .bytes start count => (a.read b).map fun bs =>
    .bytes ((bs.drop start).take (count.getD bs.length))
  | .digest => (a.read b).map fun bs => .digest bs.length (Session.digest bs)
  | .value l => (a.readValue l b).map .value
  | .position => do
    let address ← a.address b
    let bs ← a.read b
    return .position (address % pageSize) (bs.headD 0)

abbrev Outcome := Reply Session (Except Refusal Answer)

def refuse (r : Refusal) : Outcome := { state := s, result := .error r }

/-- An operation on a present arena, with its handle looked up. -/
def applyTo (k : Kernel) (i : Nat) (a : Arena) (op : Op Block) : Outcome :=
  let r := a.step k op
  let s' := s.put i r.state
  match r.result with
  | .ok (some b) => { state := s'.note (some b), result := .ok (.issued b), events := r.events }
  | .ok none => { state := s', result := .ok .done, events := r.events }
  | .error f =>
    { state := s'.noteIf op.allocates none, result := .error (.fault f), events := r.events }

/-- A new arena takes the number over even if it cannot be created. -/
def create (k : Kernel) (i : Nat) (c : Settings) : Outcome :=
  match Arena.create k c with
  | .ok (a, events) => { state := s.put i a, result := .ok .done, events }
  | .error f => { state := s.remove i, result := .error (.fault f) }

def step (k : Kernel) : Command → Outcome
  | .create i c => s.create k i c
  | .drop i => { state := s.remove i, result := .ok (.flag (s.arena? i).isSome) }
  | .apply i op =>
    match s.arena? i with
    | none => (s.noteIf op.allocates none).refuse .noArena
    | some a =>
      match op.resolve s.handles.find? with
      | none => s.refuse .noBlock
      | some op => s.applyTo k i a op
  | .fill i b byte =>
    match s.arena? i with
    | none => s.refuse .noArena
    | some a =>
      match s.handles.find? b with
      | none => s.refuse .noBlock
      | some h => s.applyTo k i a (.write h 0 (List.replicate h.len byte))
  | .ask i q =>
    match s.arena? i with
    | none => s.refuse .noArena
    | some a => { state := s, result := .ok (ask a q) }
  | .inspect i b p =>
    match s.arena? i with
    | none => s.refuse .noArena
    | some a =>
      match s.handles.find? b with
      | none => s.refuse .noBlock
      | some h => { state := s, result := answer (inspect a h p) }
  | .same b c =>
    match s.handles.find? b, s.handles.find? c with
    | some h, some g => { state := s, result := .ok (.flag (h == g)) }
    | _, _ => s.refuse .noBlock
  | .display b =>
    match s.handles.find? b with
    | none => s.refuse .noBlock
    | some h => { state := s, result := .ok (.block h) }

end Session

end ArenaAlloc.Arena
