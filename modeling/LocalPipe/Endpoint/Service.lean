import LocalPipe.Endpoint.Setup
import LocalPipe.Host.WaitSet

namespace LocalPipe.Endpoint

/-- Writes bytes at once, ahead of those that are queued. The program ends
unless all of them go through in time. -/
def writeImmediately (ep : Endpoint) (data : Bytes) : Action Unit := do
  match ep.connection with
  | none => Action.fatal (.writeOnClosed ep.name)
  | some c =>
    match c.writer with
    | none => Action.fatal (.writeWithoutWriter ep.name)
    | some w =>
      if w.isPending then Action.fatal (.writeWhilePending ep.name)
      else
        match ← c.transport.writeBlocking data ep.config.writeTimeout with
        | .error e => Action.fatal (.writeFailed ep.name e)
        | .ok n =>
          if n ≠ data.length then Action.fatal (.writeCutShort ep.name n data.length)

/-- Stops listening, gives up what is outstanding and releases the
transport. Bytes that were received stay. -/
def close (ep : Endpoint) (h : Host) : Endpoint × Host :=
  let (ep, h) := ep.unbind h
  match ep.connection with
  | none => (ep, h)
  | some c => ({ ep with connection := none }, (c.shutdown h).log (.closed ep.name))

/-- Logs the failures of a tick and closes the endpoint. -/
def giveUp (ep : Endpoint) (errors : List IoError) (h : Host) : Endpoint × Host :=
  ep.close (errors.foldl (fun h e => h.log (.transferFailed ep.name e)) h)

/-- One tick: receives, then sends, as much as goes without waiting. The
answer tells whether bytes moved or a failure closed the endpoint. The
handles of what is outstanding go to the wait set. -/
def service (ep : Endpoint) (waits : WaitSet) : Action (Bool × WaitSet × Endpoint) := do
  match ep.connection with
  | none => return (false, waits, ep)
  | some c =>
    let tick ← Action.call fun h =>
      let tick := c.tick ep.queues h
      (tick, tick.host)
    let ep := { ep with connection := some tick.connection, queues := tick.queues }
    match tick.read, tick.written with
    | _, .error (.sizeMismatch sent issued) => Action.fatal (.sizeMismatch sent issued)
    | .ok r, .ok w =>
      return (0 < r || 0 < w, waits.extend tick.connection.waitHandles, ep)
    | .error e, .ok _ => return (true, waits, ← Action.call (ep.giveUp [e]))
    | .ok _, .error (.io e) => return (true, waits, ← Action.call (ep.giveUp [e]))
    | .error e, .error (.io e') => return (true, waits, ← Action.call (ep.giveUp [e, e']))

end LocalPipe.Endpoint
