import LocalPipe.Script.Endpoints

namespace LocalPipe.Script

open Session

/-- Keeps a transport that was made. One that had its name is dropped. -/
def keepTransport (transport : String) : Except IoError Transport → Scripted Reply
  | .error e => return .failed e
  | .ok t => do
    match (← get).transports.get? transport with
    | some before => host before.close
    | none => pure ()
    modify fun s => { s with transports := s.transports.set transport t }
    return .ok

def runAcceptTransport (listener transport : String) (timeout : Duration) : Scripted Reply := do
  match (← get).listeners.get? listener with
  | none => return .unknown
  | some number =>
    match ← acceptWithin number timeout with
    | .error e => return .failed e
    | .ok d => keepTransport transport (← ask (Transport.adopt d))

/-- How a receive into a buffer went, and the buffer with what it brought. -/
def received (buffer : Bytes) : Outcome Bytes → Outcome Nat × Bytes
  | .complete data => (.complete data.length, data ++ buffer.drop data.length)
  | .pending => (.pending, buffer)
  | .failed e => (.failed e, buffer)

/-- Starts an operation of a transport on a buffer, or tries it again. -/
def tryTransfer (t : Transport) (isNew : Bool) (direction : Direction) (buffer : Bytes)
    (length : Nat) (h : Host) : Outcome Nat × Bytes × Transport × Host :=
  match direction with
  | .read =>
    let (outcome, t, h) := if isNew then t.startReceive length h else t.pollReceive length h
    let (outcome, buffer) := received buffer outcome
    (outcome, buffer, t, h)
  | .write =>
    let data := buffer.take length
    let (outcome, t, h) := if isNew then t.startSend data h else t.pollSend data h
    (outcome, buffer, t, h)

def runTransfer (t : Transport) (isNew : Bool) (direction : Direction) (buffer : String)
    (length : Option Nat) : Scripted (Reply × Transport) := do
  let bytes := ((← get).buffers.get? buffer).getD []
  let n := length.getD bytes.length
  let (outcome, bytes, t) ← ask fun h =>
    let (outcome, bytes, t, h) := tryTransfer t isNew direction bytes n h
    ((outcome, bytes, t), h)
  modify fun s => { s with buffers := s.buffers.set buffer bytes }
  return (.tried outcome bytes, t)

/-- A step of a transport, with the transport as it is afterwards. -/
def runTransportStep (t : Transport) : TransportStep → Scripted (Reply × Transport)
  | .start direction buffer length => runTransfer t true direction buffer length
  | .poll direction buffer length => runTransfer t false direction buffer length
  | .cancel => return (.none, t.cancel)
  | .waitCanceled direction => do return (.none, ← ask (t.drain direction))
  | .withdraw direction => do return (.none, ← ask (t.withdraw direction))
  | .handle direction => return (.handle (t.waitHandle direction), t)
  | .write data timeout => do
    match ← t.writeBlocking data timeout with
    | .ok n => return (.count n, t)
    | .error e => return (.failed e, t)
  | .pushWait direction waits twice => do
    let handle := t.waitHandle direction
    let before ← waitSet waits
    let after := if twice then before.extend [handle, handle] else before.push handle
    modify fun s => { s with waitSets := s.waitSets.set waits after }
    return (.handles after.handles, t)
  | .drop => return (.none, t)

def runTransport (transport : String) (step : TransportStep) : Scripted Reply := do
  match (← get).transports.get? transport, step with
  | none, .drop => return .none
  | none, _ => return .unknown
  | some t, .drop =>
    host t.close
    modify fun s => { s with transports := s.transports.erase transport }
    return .none
  | some t, step =>
    let (reply, t) ← runTransportStep t step
    modify fun s => { s with transports := s.transports.set transport t }
    return reply

def runSetQueues (queues : String) (change : QueueChange) : Scripted Reply := do
  match (← get).queues.get? queues with
  | none => return .unknown
  | some q =>
    let input := q.input ++ change.input
    let q : Queues :=
      { input := input.drop change.consume
        output := q.output ++ change.output
        readCapacity := change.capacity.getD q.readCapacity }
    modify fun s => { s with queues := s.queues.set queues q }
    return .queues (input.take change.consume) q

/-- The failure of a send, as far as it is one of input or output. -/
def advanceValue : Except SendFailure Nat → Scripted (Except IoError Nat)
  | .ok n => return .ok n
  | .error (.io e) => return .error e
  | .error (.sizeMismatch sent issued) => StateT.lift (Action.fatal (.sizeMismatch sent issued))

/-- Advances a bare worker. -/
def advanceWorker (direction : Direction) (w : Worker) (q : Queues) (t : Transport) :
    Scripted (Except IoError Nat × Worker × Queues × Transport) := do
  match direction with
  | .read =>
    let (value, w, q, t) ← ask fun h =>
      let (value, lane) := Reader.advance ⟨w, q, t, h⟩
      ((value, lane.worker, lane.queues, lane.transport), lane.host)
    return (value, w, q, t)
  | .write =>
    let (value, w, q, t) ← ask fun h =>
      let (value, lane) := Writer.advance ⟨w, q, t, h⟩
      ((value, lane.worker, lane.queues, lane.transport), lane.host)
    return (← advanceValue value, w, q, t)

def runWorkerStep (direction : Direction) (w : Worker) (q : Queues) (t : Transport) :
    WorkerStep → Scripted (Option (Except IoError Nat) × Worker × Queues × Transport)
  | .advance => do
    let (value, w, q, t) ← advanceWorker direction w q t
    return (some value, w, q, t)
  | .drain => do
    let (w, t) ← ask fun h =>
      let (w, t, h) := w.drain direction t h
      ((w, t), h)
    return (none, w, q, t)
  | .handle => return (none, w, q, t)

def runWorker (worker transport : String) (queues : Option String) (step : WorkerStep) :
    Scripted Reply := do
  let s ← get
  match s.workers.get? worker, s.transports.get? transport with
  | some (direction, w), some t =>
    let q := (queues.bind s.queues.get?).getD { readCapacity := 0 }
    let (value, w, q, t) ← runWorkerStep direction w q t step
    modify fun s => { s with
      workers := s.workers.set worker (direction, w)
      transports := s.transports.set transport t
      queues := match queues with
        | some name => s.queues.set name q
        | none => s.queues }
    return .worker
      { value
        pending := w.isPending
        pendingSize := w.pendingSize
        text := w.text
        handle := w.waitHandle? direction t
        input := q.input
        output := q.output }
  | _, _ => return .unknown

/-- Asks the rules of a direction. A chunk that is issued is copied over the
beginning of the buffer. -/
def runRule (direction : Direction) (queues buffer : String) (step : RuleStep) :
    Scripted Reply := do
  match (← get).queues.get? queues with
  | none => return .unknown
  | some q =>
    let bytes := ((← get).buffers.get? buffer).getD []
    match direction, step with
    | .read, .issue => return .rule (Reader.issue? q bytes.length) bytes q
    | .write, .issue =>
      match Writer.issue? q bytes.length with
      | none => return .rule none bytes q
      | some (chunk, q) =>
        let bytes := chunk ++ bytes.drop chunk.length
        modify fun s => { s with
          queues := s.queues.set queues q
          buffers := s.buffers.set buffer bytes }
        return .rule (some chunk.length) bytes q
    | .read, .outstanding size => return .rule (some (Reader.outstanding q size)) bytes q
    | .write, .outstanding size => return .rule (some (Writer.outstanding q size)) bytes q
    | .read, .complete data _ =>
      let q := Reader.complete q data
      modify fun s => { s with queues := s.queues.set queues q }
      return .ruleKept bytes q
    | .write, .complete data issued =>
      let _ ← advanceValue ((Writer.complete data.length issued).map fun _ => 0)
      return .ruleKept bytes q

end LocalPipe.Script
