import ArenaAlloc.Chain.Run
import ArenaAlloc.Reply

/-! A chain driven by commands that name its blocks by number. -/
namespace ArenaAlloc.Chain

open ArenaAlloc.Session

structure Session where
  chain : Option Chain := none
  handles : Handles Placement := #[]

namespace Session

/-- What can be asked of a chain. -/
inductive Query where
  | usage
  | describe
  | settings

/-- What can be asked about a block. -/
inductive Probe where
  | bytes
  | digest

inductive Command where
  | create (s : Settings)
  | apply (op : Op Nat)
  /-- Writes one byte all over a block. -/
  | fill (b : Nat) (byte : UInt8)
  | ask (q : Query)
  | inspect (b : Nat) (p : Probe)

inductive Answer where
  | done
  | placed (p : Placement)
  /-- A value as it reads back, and how far its address is off its alignment. -/
  | stored (p : Placement) (value : List Int) (misaligned : Nat)
  | usage (u : Usage)
  | text (t : String)
  | bytes (bs : List UInt8)
  | digest (len : Nat) (sum : UInt32)

variable (s : Session)

def note (p : Option Placement) : Session := { s with handles := s.handles.push p }

/-- Notes the outcome of an operation that asks for a block. -/
def noteIf (asked : Bool) (p : Option Placement) : Session := if asked then s.note p else s

/-- All handles so far lose their blocks, and their numbers stay taken. -/
def forget : Session := { s with handles := s.handles.map fun _ => none }

def ask (c : Chain) : Query → Answer
  | .usage => .usage c.usage
  | .describe => .text c.describe
  | .settings => .text c.settings.describe

def inspect (c : Chain) (p : Placement) : Probe → Answer
  | .bytes => .bytes (c.read p)
  | .digest => .digest p.len (Session.digest (c.read p))

/-- The answer to an allocation. -/
def placed (c : Chain) (p : Placement) : Op Placement → Answer
  | .allocValue l _ => .stored p (c.readValue l p) (c.address p % l.alignment)
  | _ => .placed p

abbrev Outcome := Reply Session (Except Refusal Answer)

def refuse (r : Refusal) : Outcome := { state := s, result := .error r }

/-- An operation on a present chain, with its handle looked up. -/
def applyTo (k : Kernel) (c : Chain) (op : Op Placement) : Outcome :=
  let r := c.step k op
  let kept := if op.releases then s.forget else s
  let s' := { kept with chain := some r.state }
  match r.result with
  | .ok (some p) =>
    { state := s'.note (some p), result := .ok (placed r.state p op), events := r.events }
  | .ok none => { state := s', result := .ok .done, events := r.events }
  | .error f =>
    { state := s'.noteIf op.allocates none, result := .error (.fault f), events := r.events }

/-- A new chain takes over even if it cannot be created. -/
def create (k : Kernel) (settings : Settings) : Outcome :=
  match Chain.create k settings with
  | .ok (c, events) => { state := { s.forget with chain := some c }, result := .ok .done, events }
  | .error f => { state := { s.forget with chain := none }, result := .error (.fault f) }

def step (k : Kernel) (command : Command) : Outcome :=
  match command, s.chain with
  | .create settings, _ => s.create k settings
  | .apply op, none => (s.noteIf op.allocates none).refuse .noArena
  | _, none => s.refuse .noArena
  | .apply op, some c =>
    match op.resolve s.handles.find? with
    | none => s.refuse .noBlock
    | some op => s.applyTo k c op
  | .fill b byte, some c =>
    match s.handles.find? b with
    | none => s.refuse .noBlock
    | some p => s.applyTo k c (.write p 0 (List.replicate p.len byte))
  | .ask q, some c => { state := s, result := .ok (ask c q) }
  | .inspect b probe, some c =>
    match s.handles.find? b with
    | none => s.refuse .noBlock
    | some p => { state := s, result := .ok (inspect c p probe) }

end Session

end ArenaAlloc.Chain
