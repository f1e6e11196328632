import LocalPipe.Script.Endpoints

namespace LocalPipe.Script

open Session

/-- Gives a name to a new loop. One that had the name before is dropped with
its endpoints. -/
def runNewLoop (loop : String) (pollInterval : Option Duration) : Scripted Reply := do
  match (← get).loops.get? loop with
  | some before => host before.close
  | none => pure ()
  modify fun s => { s.forgetMembers loop with loops := s.loops.set loop { pollInterval } }
  return .none

/-- Moves an endpoint into a loop. -/
def runAdd (loop ep : String) : Scripted Reply := do
  let name := (← get).resolve ep
  match (← get).endpoints.get? name, (← get).loops.get? loop with
  | some value, some lp =>
    let (id, lp) := lp.add value
    modify fun s => { s with
      endpoints := s.endpoints.erase name
      members := s.members.set name (loop, id)
      loops := s.loops.set loop lp
      issued := s.issued.set loop (((s.issued.get? loop).getD []) ++ [id]) }
    return .pipeId id
  | _, _ => return .unknown

def runRemove (loop : String) (member : Member) : Scripted Reply := do
  match (← get).memberId? member with
  | none => return .flag false
  | some id => return .flag (← modifyGet (·.takeMember loop id))

def runGet (loop : String) (member : Member) : Scripted Reply := do
  let s ← get
  match (s.memberId? member).bind fun id => (s.loops.get? loop).bind (·.get? id) with
  | some ep => return .member ep.name (.ofEndpoint ep)
  | none => return .none

/-- Whether a loop is told to stop, after a change to it. -/
def runExiting (loop : String) (change : EventLoop → EventLoop) : Scripted Reply := do
  match (← get).loops.get? loop with
  | none => return .unknown
  | some lp =>
    modify fun s => { s with loops := s.loops.set loop (change lp) }
    return .flag (change lp).exiting

/-- A script while a loop of it runs: what was named, how often the handler
was called in either way, and the reports, the latest first. -/
structure Watch where
  session : Session
  pipeCalls : Nat := 0
  timeoutCalls : Nat := 0
  reports : List CallbackReport := []

/-- The steps for a call of the handler: the last ones, if there are no more. -/
def turn (turns : List (Scripted (List Answer))) (index : Nat) : Scripted (List Answer) :=
  match turns[index]? <|> turns.getLast? with
  | some steps => steps
  | none => pure []

/-- One call of the handler: its steps are taken while the session holds the
loop, which is stopped after the last call. The current endpoint is the one
that the call is about, or the first of the loop. -/
def callback (loop : String) (maxCalls : Nat) (ep : Option String)
    (steps : Scripted (List Answer)) (lp : EventLoop) (w : Watch) :
    Action (EventLoop × Watch) := do
  let start := reportedNanos (← get).now
  Action.change (·.record (.callback (ep.getD "timeout")))
  let session :=
    { w.session with
      loops := w.session.loops.set loop lp
      current := ep <|> w.session.nameOf? loop ⟨0⟩ }
  let (answers, session) ← steps.run session
  let lp := (session.loops.get? loop).getD lp
  let lp := if maxCalls ≤ w.pipeCalls + w.timeoutCalls then lp.shutdown else lp
  return (lp, { w with session, reports := ⟨ep, start, answers⟩ :: w.reports })

/-- A handler that takes steps when it is called. -/
def handler (loop : String) (onPipe onTimeout : List (Scripted (List Answer)))
    (maxCalls : Nat) (quiet : Bool) : EventLoop.Handler Watch where
  onPipe id lp w :=
    let ep := w.session.nameOf? loop id
    callback loop maxCalls (some (ep.getD "")) (turn onPipe w.pipeCalls) lp
      { w with pipeCalls := w.pipeCalls + 1 }
  onTimeout lp w :=
    if quiet then pure (lp, w)
    else
      callback loop maxCalls none (turn onTimeout w.timeoutCalls) lp
        { w with timeoutCalls := w.timeoutCalls + 1 }

def runLoop (loop : String) (onPipe onTimeout : List (Scripted (List Answer)))
    (maxCalls : Nat) (quiet : Bool) : Scripted Reply := do
  let s ← get
  match s.loops.get? loop with
  | none => return .unknown
  | some lp =>
    let callbacks := handler loop onPipe onTimeout maxCalls quiet
    match ← lp.run callbacks EventLoop.stepLimit { session := s } with
    | none => return .unfinished
    | some (result, lp, w) =>
      set { w.session with loops := w.session.loops.set loop lp, current := s.current }
      return .ran w.reports.reverse result

def runRelay (command : CommandLine.Command) (path : Bytes) (plan : LinkPlan)
    (stdin stdout : EndSpec) (config : PipeConfig) : Scripted Reply := do
  host fun h =>
    { stdout.prepare (stdin.prepare h) with
      linkPlan := plan
      stdin := stdin.endId
      stdout := stdout.endId }
  match ← Relay.run command path config EventLoop.stepLimit with
  | none => return .unfinished
  | some (.ok ()) => return .ok
  | some (.error failure) => return .relayFailed failure

end LocalPipe.Script
