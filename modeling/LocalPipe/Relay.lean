import LocalPipe.CommandLine.Reading
import LocalPipe.EventLoop.Running

namespace LocalPipe

/-- Moves bytes from a source to a connection, and from the connection to a
sink. At most `limit` bytes wait to be sent by either destination. -/
structure Relay where
  conn : PipeId
  source : PipeId
  sink : PipeId
  limit : Nat
deriving DecidableEq, Repr

namespace Relay

/-- How many bytes an endpoint takes as a destination. A closed or missing
one takes none. -/
def roomAt (limit : Nat) : Option Endpoint → Nat
  | some ep => if ep.isClosed then 0 else limit - ep.bytesToSend
  | none => 0

/-- Moves as many received bytes as there is room for at the destination. -/
def forward (limit : Nat) (origin destination : PipeId) (lp : EventLoop) : Action EventLoop := do
  match lp.get? origin, lp.get? destination with
  | some src, some dst =>
    let (data, src) := src.read (roomAt limit (some dst))
    if data = [] then return lp
    Action.log (.forwarding data.length)
    return (lp.set origin src).set destination (dst.write data)
  | _, _ => return lp

/-- Whether nothing more can be moved: the sink is closed, or it has sent
everything and one of the two others is closed with nothing left of it. -/
def isFinished (r : Relay) (lp : EventLoop) : Bool :=
  match lp.get? r.conn, lp.get? r.source, lp.get? r.sink with
  | some conn, some source, some sink =>
    if sink.isClosed then true
    else
      let flushed := sink.bytesToSend = 0
      let peerDone := conn.isClosed ∧ conn.bytesAvailable = 0
      let inputDone := source.isClosed ∧ source.bytesAvailable = 0
      flushed ∧ (peerDone ∨ inputDone ∧ conn.bytesToSend = 0)
  | _, _, _ => true

/-- Forwards both ways after every movement, and stops when all is done. -/
def handler (r : Relay) : EventLoop.Handler Unit where
  onPipe _ lp _ := do
    let lp ← forward r.limit r.source r.conn lp
    let lp ← forward r.limit r.conn r.sink lp
    return (if r.isFinished lp then lp.shutdown else lp, ())

/-- What a relay failed at. -/
inductive Failure where
  | connecting (path : String) (error : SetupError)
  | listening (path : String) (error : SetupError)
  | duplicatingInput (errno : Errno)
  | duplicatingOutput (errno : Errno)
  | adoptingInput (error : SetupError)
  | adoptingOutput (error : SetupError)
  | waiting (error : IoError)
deriving DecidableEq, Repr

/-- What was being done, and then the error with its sources. -/
def Failure.chain : Failure → List String
  | connecting path e => ("connecting to " ++ path) :: e.chain
  | listening path e => ("listening on " ++ path) :: e.chain
  | duplicatingInput e => ["duplicating stdin", (IoError.os e).message]
  | duplicatingOutput e => ["duplicating stdout", (IoError.os e).message]
  | adoptingInput e => "adopting stdin" :: e.chain
  | adoptingOutput e => "adopting stdout" :: e.chain
  | waiting e => ["event loop", e.message]

/-- Closes an endpoint that is given up. -/
def discard (ep : Endpoint) : Action Unit :=
  Action.change fun h => (ep.close h).2

/-- A loop over a connection, a source and a sink, in this order. -/
def eventLoop (conn source sink : Endpoint) : EventLoop :=
  { pipes := [some conn, some source, some sink] }

def ofConfig (config : PipeConfig) : Relay :=
  { conn := ⟨0⟩, source := ⟨1⟩, sink := ⟨2⟩, limit := config.readBufferSize }

/-- Relays between three connected endpoints until either side is done. -/
def runLoop (config : PipeConfig) (fuel : Nat) (conn source sink : Endpoint) :
    Action (Option (Except Failure Unit)) := do
  match ← (eventLoop conn source sink).run (ofConfig config).handler fuel () with
  | none => return none
  | some (.error e, lp, ()) =>
    Action.change lp.close
    return some (.error (.waiting e))
  | some (.ok (), lp, ()) =>
    Action.log .relayFinished
    Action.change lp.close
    return some (.ok ())

/-- Relays between a connected endpoint and two descriptors. What was taken
over is released again if a later step fails. -/
def runDescriptors (config : PipeConfig) (fuel : Nat) (conn : Endpoint)
    (input output : Descriptor) : Action (Option (Except Failure Unit)) := do
  match ← (Endpoint.ofConfig config).adopt input .read "stdin" with
  | (.error e, _) =>
    Action.change (·.close output)
    discard conn
    return some (.error (.adoptingInput e))
  | (.ok (), source) =>
    match ← (Endpoint.ofConfig config).adopt output .write "stdout" with
    | (.error e, _) =>
      discard source
      discard conn
      return some (.error (.adoptingOutput e))
    | (.ok (), sink) => runLoop config fuel conn source sink

/-- Relays between a connected endpoint and the standard streams, of which it
takes duplicates. -/
def runStandard (config : PipeConfig) (fuel : Nat) (conn : Endpoint) :
    Action (Option (Except Failure Unit)) := do
  match ← Action.call fun h => h.duplicate h.stdin with
  | .error e =>
    discard conn
    return some (.error (.duplicatingInput e))
  | .ok input =>
    match ← Action.call fun h => h.duplicate h.stdout with
    | .error e =>
      Action.change (·.close input)
      discard conn
      return some (.error (.duplicatingOutput e))
    | .ok output => runDescriptors config fuel conn input output

/-- Connects to a path and relays the standard streams over it. -/
def connect (path : Bytes) (config : PipeConfig) (fuel : Nat) :
    Action (Option (Except Failure Unit)) := do
  match ← (Endpoint.ofConfig config).connect path with
  | (.error e, _) => return some (.error (.connecting (Text.lossy path) e))
  | (.ok (), conn) => runStandard config fuel conn

/-- Waits for one peer at a path and relays the standard streams over the
connection. -/
def listen (path : Bytes) (config : PipeConfig) (fuel : Nat) :
    Action (Option (Except Failure Unit)) := do
  match ← (Endpoint.ofConfig config).bind path with
  | (.error e, _) => return some (.error (.listening (Text.lossy path) e))
  | (.ok (), ep) =>
    Action.log (.waitingForPeer (Text.lossy path))
    runStandard config fuel (← ep.accept)

/-- Does what a command says. -/
def run (command : CommandLine.Command) (path : Bytes) (config : PipeConfig) (fuel : Nat) :
    Action (Option (Except Failure Unit)) :=
  match command with
  | .connect => connect path config fuel
  | .listen => listen path config fuel

end Relay

end LocalPipe
