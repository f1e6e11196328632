import LocalPipe.Proofs.Agreement
import LocalPipe.Proofs.Operations

namespace LocalPipe

/-- The bytes of a lane that are still to be accepted, first those of the
outstanding send. -/
def Lane.unsent (lane : Lane) : Bytes :=
  lane.worker.unaccepted lane.transport.sending ++ lane.queues.output

namespace Writer

/-- What an advance of the sending worker may do. It writes on the descriptor,
and what is accepted is the first part of what was unsent. A piece is dropped
only when a write fails. -/
structure Advance (before : Lane) (result : Except SendFailure Nat) (after : Lane) : Prop where
  writes : before.host.Writes before.transport.descriptor after.host
  stream : ∃ sent dropped, before.unsent = sent ++ dropped ++ after.unsent ∧
    outbound before.transport.descriptor after.host.calls =
      outbound before.transport.descriptor before.host.calls ++ sent ∧
    ∀ total, result = .ok total → dropped = []
  queues : after.queues = { before.queues with output := after.queues.output }
  transport : after.transport = { before.transport with sending := after.transport.sending }
  capacity : after.worker.capacity = before.worker.capacity
  agrees : ∀ total, result = .ok total → after.worker.Sends after.transport.sending
  paused : ∀ total, result = .ok total → after.unsent = [] ∨ ∃ mid data left,
    before.host.Writes before.transport.descriptor mid ∧
      transmit before.transport.descriptor data mid = (.pending, left, after.host)
  failed : ∀ failure, result = .error failure → ∃ e mid data left, failure = .io e ∧
    before.host.Writes before.transport.descriptor mid ∧
      transmit before.transport.descriptor data mid = (.failed e, left, after.host)

variable {lane : Lane} {data left : Bytes} {t : Transport} {h h' : Host}

/-- How a send stands after its bytes were tried. -/
def sendOutcome (length : Nat) : Outcome Unit → Outcome Nat
  | .complete () => .complete length
  | .pending => .pending
  | .failed e => .failed e

/-- What a poll of an outstanding send comes to. -/
theorem pollSend_eq {op : Operation} {outcome : Outcome Nat} {t' : Transport}
    (outstanding : t.sending = some op) (whole : data.length = op.length)
    (answer : t.pollSend data h = (outcome, t', h')) :
    ∃ done left, transmit t.descriptor (data.drop op.sent) h = (done, left, h') ∧
      outcome = sendOutcome op.length done ∧
      t' = { t with sending :=
        if done = .pending then some { op with sent := op.length - left.length } else none } := by
  have all : data.take op.length = data := by rw [← whole, List.take_length]
  unfold Transport.pollSend at answer
  simp only [outstanding, all] at answer
  split at answer
  all_goals
    rename_i transmitted
    cases answer
    exact ⟨_, _, transmitted, rfl, by simp⟩

theorem startSend_eq {outcome : Outcome Nat} {t' : Transport}
    (answer : t.startSend data h = (outcome, t', h')) :
    ∃ done left, transmit t.descriptor data h = (done, left, h') ∧
      outcome = sendOutcome data.length done ∧
      t' = { t with sending :=
        if done = .pending then some ⟨data.length, data.length - left.length, false⟩ else none } :=
  pollSend_eq (t := { t with sending := some { length := data.length } }) rfl rfl answer

theorem of_complete {length sent : Nat} {done : Outcome Unit}
    (kind : .complete sent = sendOutcome length done) : done = .complete () ∧ sent = length := by
  cases done with
  | complete => exact ⟨rfl, by cases kind; rfl⟩
  | pending => cases kind
  | failed => cases kind

theorem of_pending {length : Nat} {done : Outcome Unit}
    (kind : .pending = sendOutcome length done) : done = .pending := by
  cases done with
  | complete => cases kind
  | pending => rfl
  | failed => cases kind

theorem of_failed {length : Nat} {e : IoError} {done : Outcome Unit}
    (kind : .failed e = sendOutcome length done) : done = .failed e := by
  cases done with
  | complete => cases kind
  | pending => cases kind
  | failed => cases kind; rfl

theorem issue?_eq {q q' : Queues} {size : Nat} {chunk : Bytes} (positive : 0 < size)
    (next : issue? q size = some (chunk, q')) :
    chunk ≠ [] ∧ chunk.length ≤ size ∧ q.output = chunk ++ q'.output ∧
      q' = { q with output := q'.output } := by
  unfold issue? at next
  split at next
  · cases next
  · rename_i some_left
    cases next
    refine ⟨?_, ?_, ?_, rfl⟩
    · simp only [ne_eq, List.take_eq_nil_iff, some_left, or_false]
      omega
    · simp only [List.length_take]
      exact Nat.min_le_left _ _
    · simp

/-- A lane's next chunk, of no more bytes than its worker's buffer holds, and the
queues without it. -/
structure Next (lane : Lane) (chunk : Bytes) (queues : Queues) : Prop where
  nonempty : chunk ≠ []
  within : chunk.length ≤ lane.worker.capacity
  split : lane.queues.output = chunk ++ queues.output
  same : queues = { lane.queues with output := queues.output }

theorem Next.of_issue {chunk : Bytes} {queues : Queues}
    (next : issue? lane.queues lane.worker.capacity = some (chunk, queues)) :
    Next lane chunk queues := by
  obtain ⟨nonempty, within, split, same⟩ := issue?_eq lane.worker.capacity_pos next
  exact ⟨nonempty, within, split, same⟩

theorem output_of_issue {q : Queues} {size : Nat} (none_left : issue? q size = none) :
    q.output = [] := by
  unfold issue? at none_left
  split at none_left
  · assumption
  · cases none_left

/-- What it comes to that a lane sends its output: chunk after chunk goes through
whole, until none is left, one would block, or one fails. -/
inductive Issues : Lane → Nat → Except SendFailure Nat × Lane → Prop
  | done {lane moved} : lane.queues.output = [] → Issues lane moved (.ok moved, lane)
  | next {lane moved chunk queues left host answer} : Next lane chunk queues →
      transmit lane.transport.descriptor chunk lane.host = (.complete (), left, host) →
      Issues ⟨lane.worker, queues, { lane.transport with sending := none }, host⟩
        (moved + chunk.length) answer →
      Issues lane moved answer
  | pending {lane moved chunk queues left host} : Next lane chunk queues →
      transmit lane.transport.descriptor chunk lane.host = (.pending, left, host) →
      Issues lane moved (.ok moved, ⟨lane.worker.await chunk.length chunk, queues,
        { lane.transport with
          sending := some ⟨chunk.length, chunk.length - left.length, false⟩ }, host⟩)
  | failed {lane moved chunk queues e left host} : Next lane chunk queues →
      transmit lane.transport.descriptor chunk lane.host = (.failed e, left, host) →
      Issues lane moved (.error (.io e), ⟨lane.worker.fail, queues,
        { lane.transport with sending := none }, host⟩)

theorem issueAll_issues (lane : Lane) (moved : Nat) : Issues lane moved (issueAll lane moved) := by
  fun_induction issueAll lane moved with
  | case1 lane moved none_left => exact .done (output_of_issue none_left)
  | case2 lane moved chunk queues next sent transport host answer lane' matched ih =>
    obtain ⟨done, left, transmitted, kind, rfl⟩ := startSend_eq answer
    obtain ⟨rfl, rfl⟩ := of_complete kind
    exact .next (.of_issue next) transmitted ih
  | case3 lane moved chunk queues next sent transport host answer lane' failure mismatch =>
    obtain ⟨done, left, transmitted, kind, rfl⟩ := startSend_eq answer
    obtain ⟨rfl, rfl⟩ := of_complete kind
    simp [complete] at mismatch
  | case4 lane moved chunk queues next transport host answer =>
    obtain ⟨done, left, transmitted, kind, rfl⟩ := startSend_eq answer
    obtain rfl := of_pending kind
    exact .pending (.of_issue next) transmitted
  | case5 lane moved chunk queues next e transport host answer =>
    obtain ⟨done, left, transmitted, kind, rfl⟩ := startSend_eq answer
    obtain rfl := of_failed kind
    exact .failed (.of_issue next) transmitted

/-- A send is outstanding in a lane, whose worker holds its whole chunk. -/
structure Holds (lane : Lane) (op : Operation) : Prop where
  outstanding : lane.transport.sending = some op
  state : lane.worker.state = .pending op.length
  unfinished : op.sent < op.length
  within : op.length ≤ lane.worker.capacity
  live : op.canceled = false
  whole : lane.worker.chunk.length = op.length

theorem Holds.left_ne_nil {op : Operation} (holds : Holds lane op) :
    lane.worker.chunk.drop op.sent ≠ [] := by
  have unfinished := holds.unfinished
  rw [← holds.whole] at unfinished
  rw [ne_eq, List.drop_eq_nil_iff]
  omega

/-- What an advance of a lane comes to. What is left of an outstanding send is tried
first, and only once it went through is the output sent. -/
inductive Run (lane : Lane) : Except SendFailure Nat × Lane → Prop
  | idle {answer} : lane.worker.state = .idle → lane.transport.sending = none →
      Issues lane 0 answer → Run lane answer
  | pending {op left host} : Holds lane op →
      transmit lane.transport.descriptor (lane.worker.chunk.drop op.sent) lane.host =
        (.pending, left, host) →
      Run lane (.ok 0, ⟨lane.worker.await op.length lane.worker.chunk, lane.queues,
        { lane.transport with
          sending := some { op with sent := op.length - left.length } }, host⟩)
  | complete {op left host answer} : Holds lane op →
      transmit lane.transport.descriptor (lane.worker.chunk.drop op.sent) lane.host =
        (.complete (), left, host) →
      Issues ⟨lane.worker.idle, lane.queues, { lane.transport with sending := none }, host⟩
        op.length answer →
      Run lane answer
  | failed {op e left host} : Holds lane op →
      transmit lane.transport.descriptor (lane.worker.chunk.drop op.sent) lane.host =
        (.failed e, left, host) →
      Run lane (.error (.io e), ⟨lane.worker.fail, lane.queues,
        { lane.transport with sending := none }, host⟩)

theorem advance_run (lane : Lane) (sends : lane.worker.Sends lane.transport.sending) :
    Run lane (advance lane) := by
  unfold advance
  split
  · rename_i failed
    exact absurd failed sends.agrees.state_ne_failed
  · rename_i idle
    exact .idle idle (sends.agrees.slot_of_idle idle) (issueAll_issues lane 0)
  · rename_i size pending
    obtain ⟨op, outstanding, rfl, unfinished, within, live⟩ := sends.agrees.slot_of_pending pending
    have whole : lane.worker.chunk.length = op.length := by
      rw [sends.chunk, Worker.pendingSize, pending]
    have holds : Holds lane op := ⟨outstanding, pending, unfinished, within, live, whole⟩
    have all : lane.worker.chunk.take op.length = lane.worker.chunk := by
      rw [← whole, List.take_length]
    dsimp only [Writer.outstanding]
    rw [if_neg (by omega), all]
    split
    · rename_i transport host answer
      obtain ⟨done, left, transmitted, kind, rfl⟩ := pollSend_eq outstanding whole answer
      obtain rfl := of_pending kind
      exact .pending holds transmitted
    · rename_i sent transport host answer
      obtain ⟨done, left, transmitted, kind, rfl⟩ := pollSend_eq outstanding whole answer
      obtain ⟨rfl, rfl⟩ := of_complete kind
      simp only [Writer.complete, if_true]
      exact .complete holds transmitted (issueAll_issues _ _)
    · rename_i e transport host answer
      obtain ⟨done, left, transmitted, kind, rfl⟩ := pollSend_eq outstanding whole answer
      obtain rfl := of_failed kind
      exact .failed holds transmitted

/-- An advance may begin with some writes and what they place. -/
theorem Advance.prepend {before next after : Lane} {result : Except SendFailure Nat} (sent : Bytes)
    (rest : Advance next result after)
    (writes : before.host.Writes before.transport.descriptor next.host)
    (unsent : before.unsent = sent ++ next.unsent)
    (grown : outbound before.transport.descriptor next.host.calls =
      outbound before.transport.descriptor before.host.calls ++ sent)
    (queues : next.queues = { before.queues with output := next.queues.output })
    (transport : next.transport = { before.transport with sending := next.transport.sending })
    (capacity : next.worker.capacity = before.worker.capacity) :
    Advance before result after := by
  have descriptor : next.transport.descriptor = before.transport.descriptor := by rw [transport]
  obtain ⟨more, dropped, split, later, kept⟩ := rest.stream
  have further := rest.writes
  rw [descriptor] at further later
  refine ⟨writes.trans further, ⟨sent ++ more, dropped, ?_, ?_, kept⟩, ?_, ?_,
    rest.capacity.trans capacity, rest.agrees, ?_, ?_⟩
  · simp only [unsent, split, List.append_assoc]
  · rw [later, grown, List.append_assoc]
  · rw [rest.queues, queues]
  · rw [rest.transport, transport]
  · intro total ok
    rcases rest.paused total ok with empty | ⟨mid, bytes, left, before', pending⟩
    · exact Or.inl empty
    · rw [descriptor] at before' pending
      exact Or.inr ⟨mid, bytes, left, writes.trans before', pending⟩
  · intro failure fails
    obtain ⟨e, mid, bytes, left, io, before', failed⟩ := rest.failed failure fails
    rw [descriptor] at before' failed
    exact ⟨e, mid, bytes, left, io, writes.trans before', failed⟩

/-- A send that would block ends an advance. -/
theorem Advance.of_pending {before : Lane} {w : Worker} (op : Operation) {h' : Host}
    {queues : Queues} {moved : Nat}
    (transmitted : transmit before.transport.descriptor data before.host = (.pending, left, h'))
    (unsent : before.unsent = data ++ queues.output)
    (left_eq : w.chunk.drop op.sent = left)
    (same : queues = { before.queues with output := queues.output })
    (capacity : w.capacity = before.worker.capacity) (sends : w.Sends (some op)) :
    Advance before (.ok moved) ⟨w, queues,
      { before.transport with sending := some op }, h'⟩ := by
  obtain ⟨sent, split, grown⟩ := outbound_of_transmit transmitted
  refine ⟨.of_transmit transmitted, ⟨sent, [], ?_, grown, by simp⟩, same, rfl, capacity,
    fun _ _ => sends, ?_, by simp⟩
  · rw [unsent, ← split]
    simp [Lane.unsent, Worker.unaccepted, left_eq]
  · intro total _
    exact Or.inr ⟨before.host, data, left, .start, transmitted⟩

/-- A send that fails ends an advance, and what is left of its chunk is
dropped. -/
theorem Advance.of_failed {before : Lane} {w : Worker} {e : IoError} {h' : Host}
    {queues : Queues}
    (transmitted : transmit before.transport.descriptor data before.host = (.failed e, left, h'))
    (unsent : before.unsent = data ++ queues.output)
    (same : queues = { before.queues with output := queues.output })
    (capacity : w.capacity = before.worker.capacity) :
    Advance before (.error (.io e)) ⟨w, queues,
      { before.transport with sending := none }, h'⟩ := by
  obtain ⟨sent, split, grown⟩ := outbound_of_transmit transmitted
  refine ⟨.of_transmit transmitted, ⟨sent, left, ?_, grown, by simp⟩, same, rfl, capacity,
    by simp, by simp, ?_⟩
  · rw [unsent, ← split]
    simp [Lane.unsent, Worker.unaccepted]
  · intro failure same
    cases same
    exact ⟨e, before.host, data, left, rfl, .start, transmitted⟩

/-- The unsent bytes of a lane with nothing outstanding are its output. -/
theorem unsent_of_free (free : lane.transport.sending = none) :
    lane.unsent = lane.queues.output := by
  simp [Lane.unsent, Worker.unaccepted, free]

/-- A complete transmission places all of its bytes. -/
theorem outbound_of_complete {d : Descriptor}
    (transmitted : transmit d data h = (.complete (), left, h')) :
    left = [] ∧ outbound d h'.calls = outbound d h.calls ++ data := by
  obtain ⟨sent, split, grown⟩ := outbound_of_transmit transmitted
  have none_left := (transmit_complete_iff d data h).mp (by rw [transmitted])
  rw [transmitted] at none_left
  subst none_left
  rw [List.append_nil] at split
  exact ⟨rfl, by rw [grown, split]⟩

/-- A transmission that would block has some of its bytes left. -/
theorem left_of_pending {d : Descriptor} (transmitted : transmit d data h = (.pending, left, h')) :
    left ≠ [] ∧ ∃ sent, sent ++ left = data := by
  obtain ⟨sent, split, _⟩ := outbound_of_transmit transmitted
  refine ⟨fun none_left => ?_, sent, split⟩
  have complete := (transmit_complete_iff d data h).mpr (by rw [transmitted]; exact none_left)
  simp [transmitted] at complete

/-- What is left of a chunk is its end. -/
theorem drop_of_left {sent chunk : Bytes} (split : sent ++ left = chunk) :
    chunk.drop (chunk.length - left.length) = left := by
  subst split
  simp

/-- The unsent bytes of a lane begin with what is left of an outstanding send. -/
theorem Holds.unsent {op : Operation} (holds : Holds lane op) :
    lane.unsent = lane.worker.chunk.drop op.sent ++ lane.queues.output := by
  simp [Lane.unsent, Worker.unaccepted, holds.outstanding]

/-- What is left of a send that would block is the end of its chunk. -/
theorem Holds.drop_left {op : Operation} {d : Descriptor} (holds : Holds lane op)
    (transmitted : transmit d (lane.worker.chunk.drop op.sent) h = (.pending, left, h')) :
    lane.worker.chunk.drop (op.length - left.length) = left := by
  obtain ⟨_, sent, parts⟩ := left_of_pending transmitted
  have split : (lane.worker.chunk.take op.sent ++ sent) ++ left = lane.worker.chunk := by
    rw [List.append_assoc, parts, List.take_append_drop]
  rw [← holds.whole]
  exact drop_of_left split

theorem Issues.advance {answer : Except SendFailure Nat × Lane} {moved : Nat}
    (issues : Issues lane moved answer) (idle : lane.worker.state = .idle)
    (empty : lane.worker.chunk = []) (free : lane.transport.sending = none) :
    Advance lane answer.1 answer.2 := by
  -- along the chunks, each is placed whole before the next one is taken
  induction issues with
  | done nothing =>
    refine ⟨.start, ⟨[], [], by simp, by simp, by simp⟩, rfl, rfl, rfl, ?_, ?_, by simp⟩
    · intro total _
      rw [free]
      exact ⟨.idle idle, by simp [Worker.pendingSize, idle, empty]⟩
    · intro total _
      left
      rw [unsent_of_free free, nothing]
  | next next transmitted _ ih =>
    obtain ⟨all, grown⟩ := outbound_of_complete transmitted
    refine (ih idle empty rfl).prepend _ (.of_transmit transmitted) ?_ grown next.same rfl rfl
    rw [unsent_of_free free, unsent_of_free rfl, next.split]
  | pending next transmitted =>
    obtain ⟨some_left, sent, parts⟩ := left_of_pending transmitted
    refine .of_pending _ transmitted ?_ (drop_of_left parts) next.same rfl
      ⟨.pending rfl ?_ next.within rfl, rfl⟩
    · rw [unsent_of_free free, next.split]
    · have := List.length_pos_iff.mpr some_left
      have := List.length_pos_iff.mpr next.nonempty
      dsimp only
      omega
  | failed next transmitted =>
    refine .of_failed transmitted ?_ next.same rfl
    rw [unsent_of_free free, next.split]

/-- Every advance of a worker that agrees with its slot is as described. -/
theorem advance_spec (lane : Lane) (sends : lane.worker.Sends lane.transport.sending) :
    Advance lane (advance lane).1 (advance lane).2 := by
  have run := advance_run lane sends
  generalize advance lane = answer at run
  cases run with
  | idle idle free issues =>
    have empty : lane.worker.chunk = [] := by
      rw [← List.length_eq_zero_iff, sends.chunk, Worker.pendingSize, idle]
    exact issues.advance idle empty free
  | @pending op left host holds transmitted =>
    obtain ⟨some_left, _⟩ := left_of_pending transmitted
    have := List.length_pos_iff.mpr some_left
    have := holds.unfinished
    refine .of_pending _ transmitted holds.unsent (holds.drop_left transmitted) rfl rfl
      ⟨.pending rfl ?_ holds.within holds.live, holds.whole⟩
    dsimp only
    omega
  | complete holds transmitted issues =>
    obtain ⟨all, grown⟩ := outbound_of_complete transmitted
    refine (issues.advance rfl rfl rfl).prepend _ (.of_transmit transmitted) ?_ grown rfl rfl rfl
    rw [holds.unsent, unsent_of_free rfl]
  | failed holds transmitted => exact .of_failed transmitted holds.unsent rfl rfl

/-- With nothing to send, nothing is written and nothing fails. -/
theorem advance_of_nothing (lane : Lane) (sends : lane.worker.Sends lane.transport.sending)
    (nothing : lane.unsent = []) : (advance lane).1 = .ok 0 := by
  obtain ⟨unaccepted, empty⟩ := List.append_eq_nil_iff.mp nothing
  unfold advance
  split
  · rename_i failed
    exact absurd failed sends.agrees.state_ne_failed
  · have none_left : issue? lane.queues lane.worker.capacity = none := by rw [issue?, if_pos empty]
    unfold issueAll
    split
    · rfl
    · rename_i next
      rw [none_left] at next
      cases next
  · rename_i size pending
    obtain ⟨op, outstanding, rfl, unfinished, _⟩ := sends.agrees.slot_of_pending pending
    have whole : lane.worker.chunk.length = op.length := by
      rw [sends.chunk, Worker.pendingSize, pending]
    simp only [Worker.unaccepted, outstanding, List.drop_eq_nil_iff] at unaccepted
    omega

end Writer

end LocalPipe
