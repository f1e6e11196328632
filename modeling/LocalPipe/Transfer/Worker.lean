import LocalPipe.Transfer.Transport

namespace LocalPipe

/-- The bytes of an endpoint: those received and not read yet, and those
written and not yet handed to a send. Nothing is received while `input`
holds `readCapacity` bytes. -/
structure Queues where
  input : Bytes := []
  output : Bytes := []
  readCapacity : Nat
deriving DecidableEq, Repr

/-- How many bytes may still be received. -/
def Queues.room (q : Queues) : Nat :=
  q.readCapacity - q.input.length

/-- What a worker is about: nothing, an outstanding operation, or the
failure it has reported. -/
inductive WorkerState where
  | idle
  | pending (size : Nat)
  | failed
deriving DecidableEq, Repr

def WorkerState.text : WorkerState → String
  | idle => "Idle"
  | pending size => "Pending \x7b size: " ++ toString size ++ " \x7d"
  | failed => "Failed"

/-- Drives one direction of an endpoint, with one operation at a time of at
most `capacity` bytes. `chunk` holds the bytes of an outstanding send. -/
structure Worker where
  capacity : Nat
  state : WorkerState := .idle
  chunk : Bytes := []
  capacity_pos : 1 ≤ capacity
deriving DecidableEq, Repr

namespace Worker

/-- An idle worker. A buffer of no bytes is raised to one. -/
def ofSize (size : Nat) : Worker :=
  { capacity := max size 1, capacity_pos := by omega }

def isPending (w : Worker) : Bool :=
  match w.state with
  | .pending _ => true
  | _ => false

/-- The size of the outstanding operation, or zero. -/
def pendingSize (w : Worker) : Nat :=
  match w.state with
  | .pending size => size
  | _ => 0

def idle (w : Worker) : Worker :=
  { w with state := .idle, chunk := [] }

def fail (w : Worker) : Worker :=
  { w with state := .failed, chunk := [] }

/-- The worker once an operation is outstanding. -/
def await (w : Worker) (size : Nat) (chunk : Bytes) : Worker :=
  { w with state := .pending size, chunk }

def text (w : Worker) : String :=
  "Worker \x7b capacity: " ++ toString w.capacity ++ ", state: " ++ w.state.text ++ " \x7d"

/-- What to wait for, while an operation is outstanding. -/
def waitHandle? (w : Worker) (d : Direction) (t : Transport) : Option WaitHandle :=
  if w.isPending then some (t.waitHandle d) else none

/-- Waits until a canceled operation is given up. -/
def drain (w : Worker) (d : Direction) (t : Transport) (h : Host) : Worker × Transport × Host :=
  if w.isPending then
    let (t, h) := t.drain d h
    (w.idle, t, h)
  else (w, t, h)

end Worker

/-- A worker together with what it works on. -/
structure Lane where
  worker : Worker
  queues : Queues
  transport : Transport
  host : Host

end LocalPipe
