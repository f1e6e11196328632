import LocalPipe.Script.Files
import LocalPipe.Script.Loops
import LocalPipe.Script.Parts

namespace LocalPipe.Script

open Session

/-- A step that runs no loop and is about no endpoint of its own. -/
def plain (reply : Scripted Reply) : Scripted Answer :=
  return ⟨← reply, none⟩

mutual

/-- Takes one step. -/
def runStep : Step → Scripted Answer
  | .endpoint ep step => runNamed ep step
  | .run loop onPipe onTimeout maxCalls quiet =>
    plain (runLoop loop (turns onPipe) (turns onTimeout) maxCalls quiet)
  | .peer action => plain do return .peer (← ask (·.act action))
  | .schedule after actions => plain do
    host (·.schedule after actions)
    return .none
  | .now => plain do return .count (← ask fun h => (reportedNanos h.now, h))
  | .mode endId => plain do
    match ← ask fun h => (h.linkEnd? endId, h) with
    | some linkEnd => return .flag linkEnd.nonblocking
    | none => return .peer .noLink
  | .files step => plain (runFiles step)
  | .newEndpoint ep config => plain (runNewEndpoint ep config)
  | .drop ep => plain (runDrop ep)
  | .wait waits timeout => plain (runWait waits timeout)
  | .waits waits => plain do return .waits (← waitSet waits)
  | .clearWaits waits => plain do
    modify fun s => { s with waitSets := s.waitSets.set waits {} }
    return .cleared {}
  | .newLoop loop pollInterval => plain (runNewLoop loop pollInterval)
  | .add loop ep => plain (runAdd loop ep)
  | .remove loop member => plain (runRemove loop member)
  | .get loop member => plain (runGet loop member)
  | .shutdown loop => plain (runExiting loop EventLoop.shutdown)
  | .exiting loop => plain (runExiting loop id)
  | .relay command path plan stdin stdout config =>
    plain (runRelay command path plan stdin stdout config)
  | .newTransport transport spec => plain do
    let d ← ask spec.openDescriptor
    keepTransport transport (← ask (Transport.adopt d))
  | .acceptTransport listener transport timeout =>
    plain (runAcceptTransport listener transport timeout)
  | .transport transport step => plain (runTransport transport step)
  | .buffer buffer data => plain do
    modify fun s => { s with buffers := s.buffers.set buffer data }
    return .none
  | .newQueues queues capacity => plain do
    modify fun s => { s with queues := s.queues.set queues { readCapacity := capacity } }
    return .none
  | .setQueues queues change => plain (runSetQueues queues change)
  | .newWorker worker direction size => plain do
    let w := Worker.ofSize size
    modify fun s => { s with workers := s.workers.set worker (direction, w) }
    return .text w.text
  | .worker worker transport queues step => plain (runWorker worker transport queues step)
  | .rule direction queues buffer step => plain (runRule direction queues buffer step)

/-- Takes steps one after the other. -/
def runSteps : List Step → Scripted (List Answer)
  | [] => pure []
  | step :: rest => do
    let answer ← runStep step
    return answer :: (← runSteps rest)

/-- Step lists, each ready to be taken. -/
def turns : List (List Step) → List (Scripted (List Answer))
  | [] => []
  | steps :: rest => runSteps steps :: turns rest

end

/-- What came of a step, or of the end, with the calls made, the events
logged, and the clock if it moved. -/
structure Report (α : Type) where
  result : α
  calls : List Call
  events : List LogEvent
  moved : Option Nat

def Report.of {α : Type} (before after : Host) (result : α) : Report α where
  result := result
  calls := after.calls.reverse
  events := after.events.reverse
  moved := if after.now = before.now then none else some (reportedNanos after.now)

/-- The result of a step of a script, of its end, or of what ended it. -/
inductive Result where
  | answer (answer : Answer)
  | fatal (condition : Fatal)
  | finished

/-- Takes the steps of a script and then drops what is left. A fatal
condition ends it at once. -/
def reports : List Step → Session → Host → List (Report Result)
  | [], s, h =>
    let before := h.forget
    let after := s.close before
    [{ Report.of before after .finished with moved := none }]
  | step :: rest, s, h =>
    let before := h.forget
    match (runStep step).run s before with
    | .ok (answer, s) after => .of before after (.answer answer) :: reports rest s after
    | .error condition after => [.of before after (.fatal condition)]

/-- Runs a script on a fresh host. -/
def run (steps : List Step) : List (Report Result) :=
  reports steps {} {}

end LocalPipe.Script
