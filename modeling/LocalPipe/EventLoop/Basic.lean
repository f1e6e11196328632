import LocalPipe.Endpoint.Service

namespace LocalPipe

/-- Stands for an endpoint in an event loop. -/
structure PipeId where
  index : Nat
deriving DecidableEq, Repr

/-- Owns endpoints and drives them until it is told to stop. An endpoint
that is removed leaves its place empty, so that no number is used again. -/
structure EventLoop where
  pipes : List (Option Endpoint) := []
  pollInterval : Option Duration := none
  exiting : Bool := false
deriving DecidableEq, Repr

namespace EventLoop

def add (lp : EventLoop) (ep : Endpoint) : PipeId × EventLoop :=
  (⟨lp.pipes.length⟩, { lp with pipes := lp.pipes ++ [some ep] })

def get? (lp : EventLoop) (id : PipeId) : Option Endpoint :=
  lp.pipes[id.index]?.join

/-- Puts an endpoint that has changed back into its place. -/
def set (lp : EventLoop) (id : PipeId) (ep : Endpoint) : EventLoop :=
  { lp with pipes := lp.pipes.set id.index (some ep) }

/-- Takes an endpoint out. -/
def remove (lp : EventLoop) (id : PipeId) : Option Endpoint × EventLoop :=
  (lp.get? id, { lp with pipes := lp.pipes.set id.index none })

/-- Makes the loop return after the tick that it is in. -/
def shutdown (lp : EventLoop) : EventLoop :=
  { lp with exiting := true }

/-- Closes the endpoints in the order of their places. -/
def close (lp : EventLoop) (h : Host) : Host :=
  lp.pipes.foldl (fun h slot =>
    match slot with
    | some ep => (ep.close h).2
    | none => h) h

end EventLoop

end LocalPipe
