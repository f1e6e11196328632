import LocalPipe.Script.Session

namespace LocalPipe.Script

open Session

/-- Makes the link of an end if there is none, and sets the end's mode. -/
def EndSpec.prepare (spec : EndSpec) (h : Host) : Host :=
  let h := if h.links.contains spec.endId.link then h
    else h.setLink spec.endId.link { capacity := spec.capacity }
  match spec.nonblocking, h.linkEnd? spec.endId with
  | some nonblocking, some linkEnd => h.setEnd spec.endId { linkEnd with nonblocking }
  | _, _ => h

/-- An end that a script takes over, with a new descriptor on it. -/
def EndSpec.openDescriptor (spec : EndSpec) (h : Host) : Descriptor × Host :=
  (spec.prepare h).openDescriptor spec.endId

/-- What a setup answers. -/
def setupReply : Except SetupError Unit → Reply
  | .ok () => .ok
  | .error e => .setupFailed e

/-- The wait set of a name, empty if there is none yet. -/
def waitSet (waits : String) : Scripted WaitSet :=
  return ((← get).waitSets.get? waits).getD {}

/-- A step of an endpoint, with the endpoint as it is afterwards. -/
def runEndpoint (ep : Endpoint) : EndpointStep → Scripted (Reply × Endpoint)
  | .connect path plan => do
    host fun h => { h with linkPlan := plan }
    let (result, ep) ← ep.connect path
    return (setupReply result, ep)
  | .bind path => do
    let (result, ep) ← ep.bind path
    return (setupReply result, ep)
  | .accept => do return (.ok, ← ep.accept)
  | .adopt spec direction name => do
    let d ← ask spec.openDescriptor
    let (result, ep) ← ep.adopt d direction name
    return (setupReply result, ep)
  | .write data => return (.none, ep.write data)
  | .writeImmediately data => do
    ep.writeImmediately data
    return (.ok, ep)
  | .peek max => return (.bytes (ep.peek max), ep)
  | .peekInto length => do
    let (count, buffer) := ep.peekInto (List.replicate length 0xEE)
    return (.copied count buffer, ep)
  | .read max => do
    let (data, ep) := ep.read max
    return (.bytes data, ep)
  | .readAll => do
    let (data, ep) := ep.readAll
    return (.bytes data, ep)
  | .setLimit bytes => return (.none, ep.setReadBufferSize bytes)
  | .service waits keep => do
    let before ← waitSet waits
    let (moved, after, ep) ← ep.service (if keep then before else {})
    modify fun s => { s with waitSets := s.waitSets.set waits after }
    return (.serviced moved after.handles, ep)
  | .close => do return (.none, ← ask ep.close)
  | .state => return (.none, ep)
  | .name => return (.text ep.name, ep)
  | .move _ max => do
    let (data, ep) := match max with
      | some n => ep.read n
      | none => ep.readAll
    return (.bytes data, ep)

/-- Writes what a step moved to where it goes, and says how much it was. -/
def deliver (step : EndpointStep) (reply : Reply) : Scripted Reply := do
  match step, reply with
  | .move destination _, .bytes data =>
    match (← get).endpoint? destination with
    | some ep =>
      modify (·.setEndpoint destination (ep.write data))
      return .count data.length
    | none => return .unknown
  | _, reply => return reply

/-- A step of the endpoint of a name. -/
def runNamed (ep : String) (step : EndpointStep) : Scripted Answer := do
  match (← get).endpoint? ep with
  | none => return ⟨.unknown, none⟩
  | some value =>
    let (reply, value) ← runEndpoint value step
    modify (·.setEndpoint ep value)
    let reply ← deliver step reply
    return ⟨reply, ((← get).endpoint? ep).map Status.ofEndpoint⟩

/-- Gives a name to a new endpoint. One that had the name before is dropped. -/
def runNewEndpoint (ep : String) (config : PipeConfig) : Scripted Reply := do
  match (← get).endpoints.get? ep with
  | some value =>
    let _ ← ask value.close
  | none => pure ()
  modify fun s => { s with
    members := s.members.erase ep
    endpoints := s.endpoints.set ep (.ofConfig config) }
  return .none

/-- Drops the endpoint of a name. -/
def runDrop (ep : String) : Scripted Reply := do
  let name := (← get).resolve ep
  match (← get).members.get? name with
  | some (loop, id) => modify fun s => (s.takeMember loop id).2
  | none => pure ()
  match (← get).endpoints.get? name with
  | none => pure ()
  | some value =>
    let _ ← ask value.close
    modify fun s => { s with endpoints := s.endpoints.erase name }
  return .none

def runWait (waits : String) (timeout : Option Duration) : Scripted Reply := do
  match ← ask ((← waitSet waits).wait timeout) with
  | .ok n => return .count n
  | .error e => return .failed e

end LocalPipe.Script
