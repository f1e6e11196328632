import LocalPipe.Transfer.Worker

namespace LocalPipe.Reader

/-- The size of the next receive into a buffer of some bytes, if there is to
be one. -/
def issue? (q : Queues) (buffer : Nat) : Option Nat :=
  if 0 < q.room then some (min q.room buffer) else none

/-- The size at which an outstanding receive goes on: the capacity may have
been lowered since it began. Zero withdraws it. -/
def outstanding (q : Queues) (size : Nat) : Nat :=
  min size q.room

def complete (q : Queues) (data : Bytes) : Queues :=
  { q with input := q.input ++ data }

/-- Receives again and again until the input is full, or nothing more comes
for now. `moved` counts the bytes of the receives that are complete. -/
def issueAll (lane : Lane) (moved : Nat) : Except IoError Nat × Lane :=
  if lane.queues.room = 0 then (.ok moved, lane)
  else
    let size := min lane.queues.room lane.worker.capacity
    match _answer : lane.transport.startReceive size lane.host with
    | (.complete data, transport, host) =>
      issueAll { lane with queues := complete lane.queues data, transport, host }
        (moved + data.length)
    | (.pending, transport, host) =>
      (.ok moved, { lane with worker := lane.worker.await size [], transport, host })
    | (.failed e, transport, host) =>
      (.error e, { lane with worker := lane.worker.fail, transport, host })
termination_by lane.queues.room
decreasing_by
  have some_data : data ≠ [] := Transport.startReceive_complete (by rw [_answer])
  have := List.length_pos_iff.mpr some_data
  simp only [Queues.room, complete, List.length_append] at *
  omega

/-- Goes on with the outstanding receive, then receives what else there is. -/
def advance (lane : Lane) : Except IoError Nat × Lane :=
  match lane.worker.state with
  | .failed => (.error .alreadyFailed, lane)
  | .idle => issueAll lane 0
  | .pending size =>
    let n := outstanding lane.queues size
    if n = 0 then
      let (transport, host) := lane.transport.withdraw .read lane.host
      issueAll { lane with worker := lane.worker.idle, transport, host } 0
    else
      match lane.transport.pollReceive n lane.host with
      | (.pending, transport, host) =>
        (.ok 0, { lane with worker := lane.worker.await n [], transport, host })
      | (.complete data, transport, host) =>
        issueAll
          { worker := lane.worker.idle, queues := complete lane.queues data, transport, host }
          data.length
      | (.failed e, transport, host) =>
        (.error e, { lane with worker := lane.worker.fail, transport, host })

end LocalPipe.Reader
