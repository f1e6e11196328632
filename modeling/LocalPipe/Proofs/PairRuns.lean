import LocalPipe.Proofs.Serving
import LocalPipe.Host.Outside

namespace LocalPipe

open Host

/-- One of two endpoints that are joined by a link, with all bytes that its
user has written to it and all that the user has taken out. -/
structure Party where
  endpoint : Endpoint
  written : Bytes := []
  consumed : Bytes := []

/-- What a user does with an endpoint once it is connected. -/
inductive Party.Use where
  | write (data : Bytes)
  | read (max : Nat)
  | readAll
  | peek (max : Nat)
  | setReadBufferSize (bytes : Nat)
  | service (waits : WaitSet)
  | close

namespace Party

def perform (p : Party) : Use → Action Party
  | .write data =>
    return { p with endpoint := p.endpoint.write data, written := p.written ++ data }
  | .read max => do
    let (data, endpoint) := p.endpoint.read max
    return { p with endpoint, consumed := p.consumed ++ data }
  | .readAll => do
    let (data, endpoint) := p.endpoint.readAll
    return { p with endpoint, consumed := p.consumed ++ data }
  | .peek _ => return p
  | .setReadBufferSize bytes => return { p with endpoint := p.endpoint.setReadBufferSize bytes }
  | .service waits => do
    let (_, _, endpoint) ← p.endpoint.service waits
    return { p with endpoint }
  | .close => do
    let endpoint ← Action.call p.endpoint.close
    return { p with endpoint }

/-- All bytes that have reached a party, those its user has taken out first. -/
def received (p : Party) : Bytes :=
  p.consumed ++ p.endpoint.queues.input

end Party

/-- Two endpoints, one for each end of a link. -/
structure Pair where
  a : Party
  b : Party

namespace Pair

def party (pair : Pair) : Side → Party
  | .a => pair.a
  | .b => pair.b

def set (pair : Pair) (p : Party) : Side → Pair
  | .a => { pair with a := p }
  | .b => { pair with b := p }

theorem party_set (pair : Pair) (p : Party) (s s' : Side) :
    (pair.set p s).party s' = if s' = s then p else pair.party s' := by
  cases s <;> cases s' <;> rfl

/-- Either a user acts, or it is settled how coming reads or writes at an end
will go: cut short, refused for now, interrupted, ended or failed. -/
inductive Event where
  | use (s : Side) (use : Party.Use)
  | fail (s : Side) (d : Direction) (faults : List Fault)

def step (link : String) (pair : Pair) : Event → Action Pair
  | .use s use => do
    let p ← (pair.party s).perform use
    return pair.set p s
  | .fail s d faults => do
    Action.change fun h => (h.failTransfers ⟨link, s⟩ d faults).2
    return pair

/-- Events in any order, and as many as there are. -/
def run (link : String) (pair : Pair) : List Event → Action Pair
  | [] => return pair
  | event :: rest => do (← pair.step link event).run link rest

end Pair

end LocalPipe
