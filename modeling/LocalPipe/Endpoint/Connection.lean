import LocalPipe.Transfer.Reader
import LocalPipe.Transfer.Writer

namespace LocalPipe

/-- A transport with a worker for each direction that is in use. -/
structure Connection where
  transport : Transport
  reader : Option Worker
  writer : Option Worker
deriving DecidableEq, Repr

namespace Connection

/-- Gives up what is outstanding, then releases the transport. -/
def shutdown (c : Connection) (h : Host) : Host :=
  let t := c.transport.cancel
  let (t, h) := match c.reader with
    | some w => (w.drain .read t h).2
    | none => (t, h)
  let (t, h) := match c.writer with
    | some w => (w.drain .write t h).2
    | none => (t, h)
  t.close h

/-- What came of one tick: how both directions went, and what the worker in
each now waits for. -/
structure Tick where
  read : Except IoError Nat
  written : Except SendFailure Nat
  connection : Connection
  queues : Queues
  host : Host

/-- Advances the worker that receives, then the one that sends. -/
def tick (c : Connection) (q : Queues) (h : Host) : Tick :=
  let (read, reader, q, t, h) := match c.reader with
    | some w =>
      let (read, lane) := Reader.advance ⟨w, q, c.transport, h⟩
      (read, some lane.worker, lane.queues, lane.transport, lane.host)
    | none => (.ok 0, none, q, c.transport, h)
  let (written, writer, q, t, h) := match c.writer with
    | some w =>
      let (written, lane) := Writer.advance ⟨w, q, t, h⟩
      (written, some lane.worker, lane.queues, lane.transport, lane.host)
    | none => (.ok 0, none, q, t, h)
  { read, written, connection := ⟨t, reader, writer⟩, queues := q, host := h }

/-- The handles of what is outstanding, that of the receive first. -/
def waitHandles (c : Connection) : List WaitHandle :=
  (c.reader.bind (·.waitHandle? .read c.transport)).toList ++
    (c.writer.bind (·.waitHandle? .write c.transport)).toList

end Connection

end LocalPipe
