import LocalPipe.Endpoint.Config
import LocalPipe.Endpoint.Connection

namespace LocalPipe

/-- A socket that listens, by its listener's number, and the path that it
was bound to. -/
structure Bound where
  listener : Nat
  path : Bytes
deriving DecidableEq, Repr

/-- One side of a two-way byte stream. It begins disconnected, is set up by
`connect`, by `bind` and `accept`, or by `adopt`, and is taken down by
`close`. Bytes only move in `service`. -/
structure Endpoint where
  name : String := ""
  connection : Option Connection := none
  listener : Option Bound := none
  queues : Queues
  config : PipeConfig
deriving DecidableEq, Repr

namespace Endpoint

def ofConfig (config : PipeConfig) : Endpoint :=
  { queues := { readCapacity := config.readBufferSize }, config }

def isClosed (ep : Endpoint) : Bool :=
  ep.connection.isNone

/-- The bytes received and not read yet. -/
def bytesAvailable (ep : Endpoint) : Nat :=
  ep.queues.input.length

/-- The bytes written and those handed to an outstanding send. -/
def bytesToSend (ep : Endpoint) : Nat :=
  ep.queues.output.length +
    ((ep.connection.bind (·.writer)).map Worker.pendingSize).getD 0

def readBufferSize (ep : Endpoint) : Nat :=
  ep.queues.readCapacity

/-- Changes how many unread bytes stop the endpoint from receiving, from the
next tick on. -/
def setReadBufferSize (ep : Endpoint) (bytes : Nat) : Endpoint :=
  { ep with queues := { ep.queues with readCapacity := bytes } }

/-- Queues bytes for sending. They are never refused. -/
def write (ep : Endpoint) (data : Bytes) : Endpoint :=
  { ep with queues := { ep.queues with output := ep.queues.output ++ data } }

/-- Up to `max` received bytes, which stay. -/
def peek (ep : Endpoint) (max : Nat) : Bytes :=
  ep.queues.input.take max

/-- Up to `max` received bytes, which are taken away. -/
def read (ep : Endpoint) (max : Nat) : Bytes × Endpoint :=
  (ep.peek max, { ep with queues := { ep.queues with input := ep.queues.input.drop max } })

/-- All received bytes, which are taken away. -/
def readAll (ep : Endpoint) : Bytes × Endpoint :=
  (ep.queues.input, { ep with queues := { ep.queues with input := [] } })

/-- Copies received bytes over the beginning of a buffer. -/
def peekInto (ep : Endpoint) (buffer : Bytes) : Nat × Bytes :=
  let data := ep.peek buffer.length
  (data.length, data ++ buffer.drop data.length)

end Endpoint

end LocalPipe
