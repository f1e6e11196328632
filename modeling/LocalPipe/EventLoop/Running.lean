import LocalPipe.EventLoop.Basic

namespace LocalPipe.EventLoop

/-- What a program does when a loop calls it: after a tick in which an
endpoint moved bytes or failed, and when the poll interval has passed. It
may change the loop, and has a state of its own. -/
structure Handler (σ : Type) where
  onPipe : PipeId → EventLoop → σ → Action (EventLoop × σ)
  onTimeout : EventLoop → σ → Action (EventLoop × σ) := fun lp state => pure (lp, state)

/-- A loop in the middle of a tick: the place that is next, the handles
collected so far, whether the handler was called in this tick, and when the
poll interval last began. -/
structure Running (σ : Type) where
  eventLoop : EventLoop
  state : σ
  place : Nat := 0
  waits : WaitSet := {}
  acted : Bool := false
  lastTimeout : Nat

/-- What a step of a running loop leads to. -/
inductive Progress (σ : Type) where
  | running (run : Running σ)
  | finished (result : Except IoError Unit) (eventLoop : EventLoop) (state : σ)

variable {σ : Type}

namespace Running

/-- A loop begins a tick unless it was told to stop. -/
def beginTick (run : Running σ) : Progress σ :=
  if run.eventLoop.exiting then .finished (.ok ()) run.eventLoop run.state
  else .running { run with place := 0, waits := {}, acted := false }

/-- Services the endpoint in a place, and calls the handler if it moved. -/
def servicePlace (handler : Handler σ) (run : Running σ) (ep : Endpoint) :
    Action (Running σ) := do
  let (moved, waits, ep) ← ep.service run.waits
  let id : PipeId := ⟨run.place⟩
  let run := { run with eventLoop := run.eventLoop.set id ep, waits, place := run.place + 1 }
  if moved then
    let (eventLoop, state) ← handler.onPipe id run.eventLoop run.state
    return { run with eventLoop, state, acted := true }
  else return run

/-- Whether the poll interval has passed. -/
def intervalPassed (run : Running σ) (now : Nat) : Bool :=
  match run.eventLoop.pollInterval with
  | some interval => interval.nanos ≤ now - run.lastTimeout
  | none => false

/-- What is left of the poll interval. -/
def intervalLeft (run : Running σ) (now : Nat) : Option Duration :=
  run.eventLoop.pollInterval.map fun interval => ⟨interval.nanos - (now - run.lastTimeout)⟩

/-- Calls the handler if the poll interval has passed, which then begins
anew. -/
def callTimeout (handler : Handler σ) (run : Running σ) : Action (Running σ) := do
  if run.intervalPassed (← get).now then
    let (eventLoop, state) ← handler.onTimeout run.eventLoop run.state
    return { run with eventLoop, state, acted := true, lastTimeout := (← get).now }
  else return run

/-- Waits for a handle, or for the poll interval to pass. With neither, the
loop could never wake up. -/
def wait (run : Running σ) : Action (Progress σ) := do
  let timeout := run.intervalLeft (← get).now
  if run.waits.isEmpty && timeout.isNone then Action.fatal .nothingToWaitFor
  Action.log (.waiting run.waits.length timeout)
  match ← Action.call (run.waits.wait timeout) with
  | .error e => return .finished (.error e) run.eventLoop run.state
  | .ok _ => return run.beginTick

/-- Ends a tick after the last place. A tick that called the handler is
followed by the next one at once. -/
def endTick (handler : Handler σ) (run : Running σ) : Action (Progress σ) := do
  let run ← run.callTimeout handler
  if run.acted || run.eventLoop.exiting then return run.beginTick
  else run.wait

/-- One step: the next place, or the end of the tick. -/
def step (handler : Handler σ) (run : Running σ) : Action (Progress σ) :=
  match run.eventLoop.pipes[run.place]? with
  | some (some ep) => do return .running (← run.servicePlace handler ep)
  | some none => return .running { run with place := run.place + 1 }
  | none => run.endTick handler

end Running

/-- Takes up to `fuel` steps. The answer is none while the loop still runs. -/
def iterate (handler : Handler σ) :
    Nat → Progress σ → Action (Option (Except IoError Unit × EventLoop × σ))
  | _, .finished result lp state => return some (result, lp, state)
  | 0, .running _ => return none
  | fuel + 1, .running run => do iterate handler fuel (← run.step handler)

/-- How many steps a loop may take before it is given up. -/
def stepLimit : Nat := 1000000000

/-- Runs until the handler stops the loop, or a poll fails. -/
def run (handler : Handler σ) (fuel : Nat) (lp : EventLoop) (state : σ) :
    Action (Option (Except IoError Unit × EventLoop × σ)) := do
  let start : Running σ := { eventLoop := lp, state, lastTimeout := (← get).now }
  iterate handler fuel start.beginTick

end LocalPipe.EventLoop
