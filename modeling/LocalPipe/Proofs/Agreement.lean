import LocalPipe.Endpoint.Connection

namespace LocalPipe

/-- A worker and the slot of its direction agree on what is outstanding:
nothing, or one operation of the worker's size that is neither canceled nor
finished. -/
inductive Worker.Agrees (w : Worker) : Option Operation → Prop
  | idle : w.state = .idle → Agrees w none
  | pending {op : Operation} : w.state = .pending op.length → op.sent < op.length →
      op.length ≤ w.capacity → op.canceled = false → Agrees w (some op)

/-- A worker that receives agrees with its slot. A receive has sent nothing. -/
structure Worker.Receives (w : Worker) (slot : Option Operation) : Prop where
  agrees : w.Agrees slot
  unsent : ∀ op ∈ slot, op.sent = 0

/-- A worker that sends agrees with its slot, and holds the whole chunk of an
outstanding send. -/
structure Worker.Sends (w : Worker) (slot : Option Operation) : Prop where
  agrees : w.Agrees slot
  chunk : w.chunk.length = w.pendingSize

/-- What is left to be accepted of the chunk of an outstanding send. -/
def Worker.unaccepted (w : Worker) : Option Operation → Bytes
  | some op => w.chunk.drop op.sent
  | none => []

theorem Worker.Agrees.slot_of_idle {w : Worker} {slot : Option Operation} (agrees : w.Agrees slot)
    (idle : w.state = .idle) : slot = none := by
  cases agrees with
  | idle => rfl
  | pending pending => simp [idle] at pending

theorem Worker.Agrees.slot_of_pending {w : Worker} {slot : Option Operation} {size : Nat}
    (agrees : w.Agrees slot) (pending : w.state = .pending size) :
    ∃ op, slot = some op ∧ op.length = size ∧ op.sent < op.length ∧ op.length ≤ w.capacity ∧
      op.canceled = false := by
  cases agrees with
  | idle idle => simp [idle] at pending
  | @pending op state unfinished within live =>
    rw [pending] at state
    cases state
    exact ⟨op, rfl, rfl, unfinished, within, live⟩

theorem Worker.Agrees.state_ne_failed {w : Worker} {slot : Option Operation}
    (agrees : w.Agrees slot) : w.state ≠ .failed := by
  cases agrees with
  | idle state => simp [state]
  | pending state => simp [state]

/-- The workers of a connection agree with its slots, and a slot without a
worker is empty. -/
structure Connection.Sound (c : Connection) : Prop where
  reader : ∀ w, c.reader = some w → w.Receives c.transport.receiving
  writer : ∀ w, c.writer = some w → w.Sends c.transport.sending
  unread : c.reader = none → c.transport.receiving = none
  unwritten : c.writer = none → c.transport.sending = none

/-- What is left to be accepted of the send that a connection has
outstanding. -/
def Connection.unaccepted (c : Connection) : Bytes :=
  match c.writer with
  | some w => w.unaccepted c.transport.sending
  | none => []

end LocalPipe
