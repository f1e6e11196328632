import LocalPipe.Endpoint.Basic
import LocalPipe.Transfer.Deadline

namespace LocalPipe.Endpoint

/-- Only a disconnected endpoint can be set up. -/
def requireDisconnected (ep : Endpoint) (call : SetupCall) : Action Unit := do
  if ep.connection.isSome then Action.fatal (.alreadyConnected call ep.name)

/-- Takes over a connected descriptor, with the workers asked for. -/
def attach (ep : Endpoint) (d : Descriptor) (reads writes : Bool) (h : Host) :
    Except IoError Unit × Endpoint × Host :=
  match Transport.adopt d h with
  | (.error e, h) => (.error e, ep, h)
  | (.ok transport, h) =>
    let worker := Worker.ofSize ep.config.ioSize
    let connection : Connection :=
      { transport
        reader := if reads then some worker else none
        writer := if writes then some worker else none }
    (.ok (), { ep with connection := some connection }, h)

/-- Connects to a listener by name. The endpoint then reads and writes. -/
def connect (ep : Endpoint) (path : Bytes) : Action (Except SetupError Unit × Endpoint) := do
  ep.requireDisconnected .initiate
  let shown := Text.lossy path
  match ← Action.call (·.connect path) with
  | .error e => return (.error (.connect shown e), ep)
  | .ok d =>
    Action.log (.connected shown)
    let (result, ep) ← Action.call fun h =>
      let (result, ep, h) := { ep with name := shown }.attach d true true h
      ((result, ep), h)
    return (result.mapError .failed, ep)

/-- Drops the listening socket, if there is one, and removes its name. -/
def unbind (ep : Endpoint) (h : Host) : Endpoint × Host :=
  match ep.listener with
  | none => (ep, h)
  | some bound =>
    let ep := { ep with listener := none }
    match (h.closeListener bound.listener).unlink bound.path with
    | (.ok (), h) => (ep, h)
    | (.error e, h) => (ep, h.log (.socketFileKept (Text.lossy bound.path) (.os e)))

/-- Clears a name for a socket: what is there must be a socket, and goes. -/
def removeStaleSocket (path : Bytes) (h : Host) : Except IoError Unit × Host :=
  if path.contains 0 then (.error .nulInFileName, h)
  else
    match h.stat path with
    | (.error .enoent, h) => (.ok (), h)
    | (.error e, h) => (.error (.os e), h)
    | (.ok (.socket _), h) =>
      match h.unlink path with
      | (.error e, h) => (.error (.os e), h)
      | (.ok (), h) => (.ok (), h.log (.removedStaleSocket (Text.lossy path)))
    | (.ok _, h) => (.error .notASocket, h)

/-- Listens under a name, in place of what the endpoint listened to before.
A socket that is left there is replaced. -/
def bind (ep : Endpoint) (path : Bytes) : Action (Except SetupError Unit × Endpoint) := do
  ep.requireDisconnected .bind
  let ep ← Action.call ep.unbind
  let shown := Text.lossy path
  match ← Action.call (removeStaleSocket path) with
  | .error e => return (.error (.bind shown e), ep)
  | .ok () =>
    match ← Action.call (·.listen path) with
    | .error e => return (.error (.bind shown e), ep)
    | .ok listener =>
      Action.log (.listening shown)
      return (.ok (), { ep with name := shown, listener := some { listener, path } })

/-- Waits for a peer at the bound name, and stops listening once there is
one. Without a peer in time the program ends. -/
def accept (ep : Endpoint) : Action Endpoint := do
  ep.requireDisconnected .accept
  match ep.listener with
  | none => Action.fatal (.notBound ep.name)
  | some bound =>
    match ← acceptWithin bound.listener ep.config.acceptTimeout with
    | .error e => Action.fatal (.acceptFailed ep.name e)
    | .ok d =>
      let ep ← Action.call ep.unbind
      Action.log (.acceptedPeer ep.name)
      let (result, ep) ← Action.call fun h =>
        let (result, ep, h) := ep.attach d true true h
        ((result, ep), h)
      match result with
      | .error e => Action.fatal (.acceptFailed ep.name e)
      | .ok () => return ep

/-- Takes over a descriptor that is open already, for one direction. -/
def adopt (ep : Endpoint) (d : Descriptor) (direction : Direction) (name : String) :
    Action (Except SetupError Unit × Endpoint) := do
  ep.requireDisconnected .adopt
  Action.log (.adopted name direction)
  let (result, ep) ← Action.call fun h =>
    let (result, ep, h) :=
      { ep with name }.attach d (direction = Direction.read) (direction = Direction.write) h
    ((result, ep), h)
  return (result.mapError .failed, ep)

end LocalPipe.Endpoint
