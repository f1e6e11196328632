import LocalPipe.Host.Calls

namespace LocalPipe

/-- How an operation stands after it was tried. -/
inductive Outcome (α : Type) where
  | complete (result : α)
  | pending
  | failed (error : IoError)
deriving DecidableEq, Repr

/-- An operation that could not finish at once. `sent` counts the bytes of a
send that were accepted. -/
structure Operation where
  length : Nat
  sent : Nat := 0
  canceled : Bool := false
deriving DecidableEq, Repr

/-- An owned descriptor in non-blocking mode, with at most one outstanding
operation in each direction. -/
structure Transport where
  descriptor : Descriptor
  receiving : Option Operation := none
  sending : Option Operation := none
  /-- Whether the mode was changed, and is changed back at the end. -/
  restores : Bool
deriving DecidableEq, Repr

/-- Reads until the read is not interrupted. The end of the stream is a
failure. -/
def receive (d : Descriptor) (n : Nat) (h : Host) : Outcome Bytes × Host :=
  match _answer : h.read d n with
  | (.ok [], h') => (.failed .closedByPeer, h')
  | (.ok data, h') => (.complete data, h')
  | (.error .eagain, h') => (.pending, h')
  | (.error .eintr, h') => receive d n h'
  | (.error e, h') => (.failed (.os e), h')
termination_by (h.faults d.endId .read).length
decreasing_by
  have fewer := h.faults_read_lt d n (by rw [_answer])
  rwa [_answer] at fewer

/-- Writes until every byte is accepted, or no more are taken for now. The
bytes that are left come with the outcome. -/
def transmit (d : Descriptor) (data : Bytes) (h : Host) : Outcome Unit × Bytes × Host :=
  if data = [] then (.complete (), [], h)
  else
    match _answer : h.write d data with
    | (.ok 0, h') => (.failed .wroteNothing, data, h')
    | (.ok (n + 1), h') => transmit d (data.drop (n + 1)) h'
    | (.error .eagain, h') => (.pending, data, h')
    | (.error .eintr, h') => transmit d data h'
    | (.error e, h') => (.failed (.os e), data, h')
termination_by data.length + (h.faults d.endId .write).length
decreasing_by
  · rename_i some_left
    have fewer := h.faults_write_le d data
    simp only [_answer] at fewer
    have := List.length_pos_iff.mpr some_left
    simp only [List.length_drop]
    omega
  · have fewer := h.faults_write_lt d data (by rw [_answer])
    simp only [_answer] at fewer
    omega

namespace Transport

/-- Takes over a descriptor and makes it non-blocking. If that fails, the
descriptor is closed. -/
def adopt (d : Descriptor) (h : Host) : Except IoError Transport × Host :=
  match h.getMode d with
  | (.error e, h) => (.error (.os e), h.close d)
  | (.ok true, h) => (.ok { descriptor := d, restores := false }, h)
  | (.ok false, h) =>
    match h.setMode d true with
    | (.error e, h) => (.error (.os e), h.close d)
    | (.ok (), h) => (.ok { descriptor := d, restores := true }, h)

/-- Gives the descriptor its mode back, if it was changed, and closes it. -/
def close (t : Transport) (h : Host) : Host :=
  if t.restores then
    match h.setMode t.descriptor false with
    | (.error e, h) => (h.log (.flagsKept (.os e))).close t.descriptor
    | (.ok (), h) => h.close t.descriptor
  else h.close t.descriptor

def operation (t : Transport) : Direction → Option Operation
  | .read => t.receiving
  | .write => t.sending

def setOperation (t : Transport) (op : Option Operation) : Direction → Transport
  | .read => { t with receiving := op }
  | .write => { t with sending := op }

/-- Tries the outstanding receive again, for up to `n` bytes from now on. -/
def pollReceive (t : Transport) (n : Nat) (h : Host) : Outcome Bytes × Transport × Host :=
  match t.receiving with
  | none => (.failed .noOperation, t, h)
  | some op =>
    match receive t.descriptor n h with
    | (.pending, h) => (.pending, { t with receiving := some { op with length := n } }, h)
    | (outcome, h) => (outcome, { t with receiving := none }, h)

/-- Begins a receive of up to `n` bytes. -/
def startReceive (t : Transport) (n : Nat) (h : Host) : Outcome Bytes × Transport × Host :=
  { t with receiving := some { length := n } }.pollReceive n h

/-- Goes on with the outstanding send, whose bytes are those of `buffer`. It
is complete when every byte has been accepted, and then says how many. -/
def pollSend (t : Transport) (buffer : Bytes) (h : Host) : Outcome Nat × Transport × Host :=
  match t.sending with
  | none => (.failed .noOperation, t, h)
  | some op =>
    match transmit t.descriptor ((buffer.take op.length).drop op.sent) h with
    | (.complete (), _, h) => (.complete op.length, { t with sending := none }, h)
    | (.pending, left, h) =>
      (.pending, { t with sending := some { op with sent := op.length - left.length } }, h)
    | (.failed error, _, h) => (.failed error, { t with sending := none }, h)

/-- Begins a send of all bytes of `buffer`. -/
def startSend (t : Transport) (buffer : Bytes) (h : Host) : Outcome Nat × Transport × Host :=
  { t with sending := some { length := buffer.length } }.pollSend buffer h

def markCanceled (op : Operation) : Operation :=
  { op with canceled := true }

/-- Asks for every outstanding operation to be given up. -/
def cancel (t : Transport) : Transport :=
  { t with receiving := t.receiving.map markCanceled, sending := t.sending.map markCanceled }

/-- Waits until a canceled operation is given up. Between two tries nobody
else holds on to it, so that it is at once. -/
def drain (t : Transport) (d : Direction) (h : Host) : Transport × Host :=
  match t.operation d with
  | none => (t, h)
  | some op => (t.setOperation none d, h.log (.drained d op.length op.sent))

/-- Gives up the operation in one direction, and leaves the other alone. -/
def withdraw (t : Transport) (d : Direction) (h : Host) : Transport × Host :=
  (t.setOperation ((t.operation d).map markCanceled) d).drain d h

/-- What an operation in a direction waits for. -/
def waitHandle (t : Transport) (d : Direction) : WaitHandle :=
  ⟨t.descriptor, d.interest⟩

end Transport

theorem receive_complete {d : Descriptor} {n : Nat} {h : Host} {data : Bytes}
    (done : (receive d n h).1 = .complete data) : data ≠ [] := by
  fun_induction receive d n h with
  | case1 h h' answer => simp at done
  | case2 h data' h' nonempty answer => simp_all
  | case3 h h' answer => simp at done
  | case4 h h' answer ih => exact ih done
  | case5 h e h' answer => simp at done

/-- A receive that completes brings at least one byte. -/
theorem Transport.startReceive_complete {t : Transport} {n : Nat} {h : Host} {data : Bytes}
    (done : (t.startReceive n h).1 = .complete data) : data ≠ [] := by
  simp only [startReceive, pollReceive] at done
  split at done
  · simp at done
  · rename_i answer
    exact receive_complete (by rw [answer]; exact done)

end LocalPipe
