import LocalPipe.Transfer.Worker

namespace LocalPipe

/-- Why sending stops for good. -/
inductive SendFailure where
  | io (error : IoError)
  | sizeMismatch (sent issued : Nat)
deriving DecidableEq, Repr

namespace Writer

/-- The next chunk of at most some bytes, which leaves the queue now and not
when its send is complete. -/
def issue? (q : Queues) (buffer : Nat) : Option (Bytes × Queues) :=
  if q.output = [] then none
  else some (q.output.take buffer, { q with output := q.output.drop buffer })

/-- A send goes on at the size it began with. -/
def outstanding (_ : Queues) (size : Nat) : Nat :=
  size

/-- A send is complete only with all of its bytes. -/
def complete (sent issued : Nat) : Except SendFailure Unit :=
  if sent = issued then .ok () else .error (.sizeMismatch sent issued)

/-- Sends chunk after chunk until the output is empty, or no more is taken
for now. `moved` counts the bytes of the sends that are complete. -/
def issueAll (lane : Lane) (moved : Nat) : Except SendFailure Nat × Lane :=
  match _next : issue? lane.queues lane.worker.capacity with
  | none => (.ok moved, lane)
  | some (chunk, queues) =>
    match lane.transport.startSend chunk lane.host with
    | (.complete sent, transport, host) =>
      let lane' := { lane with queues, transport, host }
      match complete sent chunk.length with
      | .ok () => issueAll lane' (moved + sent)
      | .error failure => (.error failure, lane')
    | (.pending, transport, host) =>
      (.ok moved,
        { worker := lane.worker.await chunk.length chunk, queues, transport, host })
    | (.failed e, transport, host) =>
      (.error (.io e), { worker := lane.worker.fail, queues, transport, host })
termination_by lane.queues.output.length
decreasing_by
  have positive := lane.worker.capacity_pos
  unfold issue? at _next
  split at _next
  · simp at _next
  · rename_i some_left
    have := List.length_pos_iff.mpr some_left
    simp only [Option.some.injEq, Prod.mk.injEq] at _next
    obtain ⟨_, rfl⟩ := _next
    simp only [List.length_drop]
    omega

/-- Goes on with the outstanding send, then sends what else there is. -/
def advance (lane : Lane) : Except SendFailure Nat × Lane :=
  match lane.worker.state with
  | .failed => (.error (.io .alreadyFailed), lane)
  | .idle => issueAll lane 0
  | .pending size =>
    let n := outstanding lane.queues size
    if n = 0 then
      let (transport, host) := lane.transport.withdraw .write lane.host
      issueAll { lane with worker := lane.worker.idle, transport, host } 0
    else
      match lane.transport.pollSend (lane.worker.chunk.take n) lane.host with
      | (.pending, transport, host) =>
        (.ok 0, { lane with worker := lane.worker.await n lane.worker.chunk, transport, host })
      | (.complete sent, transport, host) =>
        let lane' := { lane with worker := lane.worker.idle, transport, host }
        match complete sent n with
        | .ok () => issueAll lane' sent
        | .error failure => (.error failure, lane')
      | (.failed e, transport, host) =>
        (.error (.io e), { lane with worker := lane.worker.fail, transport, host })

end Writer

end LocalPipe
