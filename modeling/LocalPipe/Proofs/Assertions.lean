import LocalPipe.Proofs.Drains
import LocalPipe.Proofs.Uses

namespace LocalPipe

/-- What a transport asserts of its slots. -/
inductive Assertion where
  /-- No operation begins while another one is outstanding. -/
  | alreadyOutstanding (d : Direction)
  /-- A send goes on with as many bytes as it began with. -/
  | otherLength (began given : Nat)
  /-- Only a canceled operation is waited for. -/
  | drainWithoutCancel (d : Direction)
deriving DecidableEq, Repr

/-- A computation that is stopped by an assertion that does not hold. -/
abbrev Asserted := Except Assertion

/-! The transfers with the assertions that are made on the way. They do the same as
those without, unless an assertion stops them. -/

namespace Asserted

def startReceive (t : Transport) (n : Nat) (h : Host) :
    Asserted (Outcome Bytes × Transport × Host) :=
  if t.receiving.isSome then .error (.alreadyOutstanding .read) else .ok (t.startReceive n h)

def pollSend (t : Transport) (buffer : Bytes) (h : Host) :
    Asserted (Outcome Nat × Transport × Host) :=
  match t.sending with
  | none => .ok (t.pollSend buffer h)
  | some op =>
    if op.length = buffer.length then .ok (t.pollSend buffer h)
    else .error (.otherLength op.length buffer.length)

def startSend (t : Transport) (buffer : Bytes) (h : Host) :
    Asserted (Outcome Nat × Transport × Host) :=
  if t.sending.isSome then .error (.alreadyOutstanding .write)
  else pollSend { t with sending := some { length := buffer.length } } buffer h

def drain (t : Transport) (d : Direction) (h : Host) : Asserted (Transport × Host) :=
  match t.operation d with
  | none => .ok (t.drain d h)
  | some op => if op.canceled then .ok (t.drain d h) else .error (.drainWithoutCancel d)

def withdraw (t : Transport) (d : Direction) (h : Host) : Asserted (Transport × Host) :=
  drain (t.setOperation ((t.operation d).map Transport.markCanceled) d) d h

def receiveAll (lane : Lane) (moved : Nat) : Asserted (Except IoError Nat × Lane) :=
  if lane.queues.room = 0 then .ok (.ok moved, lane)
  else
    let size := min lane.queues.room lane.worker.capacity
    match _answer : startReceive lane.transport size lane.host with
    | .error assertion => .error assertion
    | .ok (.complete data, transport, host) =>
      receiveAll { lane with queues := Reader.complete lane.queues data, transport, host }
        (moved + data.length)
    | .ok (.pending, transport, host) =>
      .ok (.ok moved, { lane with worker := lane.worker.await size [], transport, host })
    | .ok (.failed e, transport, host) =>
      .ok (.error e, { lane with worker := lane.worker.fail, transport, host })
termination_by lane.queues.room
decreasing_by
  have answered :
      lane.transport.startReceive size lane.host = (.complete data, transport, host) := by
    unfold startReceive at _answer
    split at _answer
    · cases _answer
    · exact Except.ok.inj _answer
  have some_data : data ≠ [] := Transport.startReceive_complete (by rw [answered])
  have := List.length_pos_iff.mpr some_data
  simp only [Queues.room, Reader.complete, List.length_append] at *
  omega

def receive (lane : Lane) : Asserted (Except IoError Nat × Lane) :=
  match lane.worker.state with
  | .failed => .ok (.error .alreadyFailed, lane)
  | .idle => receiveAll lane 0
  | .pending size =>
    let n := Reader.outstanding lane.queues size
    if n = 0 then do
      let (transport, host) ← withdraw lane.transport .read lane.host
      receiveAll { lane with worker := lane.worker.idle, transport, host } 0
    else
      match lane.transport.pollReceive n lane.host with
      | (.pending, transport, host) =>
        .ok (.ok 0, { lane with worker := lane.worker.await n [], transport, host })
      | (.complete data, transport, host) =>
        receiveAll
          { worker := lane.worker.idle, queues := Reader.complete lane.queues data
            transport, host }
          data.length
      | (.failed e, transport, host) =>
        .ok (.error e, { lane with worker := lane.worker.fail, transport, host })

def sendAll (lane : Lane) (moved : Nat) : Asserted (Except SendFailure Nat × Lane) :=
  match _next : Writer.issue? lane.queues lane.worker.capacity with
  | none => .ok (.ok moved, lane)
  | some (chunk, queues) =>
    match startSend lane.transport chunk lane.host with
    | .error assertion => .error assertion
    | .ok (.complete sent, transport, host) =>
      let lane' := { lane with queues, transport, host }
      match Writer.complete sent chunk.length with
      | .ok () => sendAll lane' (moved + sent)
      | .error failure => .ok (.error failure, lane')
    | .ok (.pending, transport, host) =>
      .ok (.ok moved,
        { worker := lane.worker.await chunk.length chunk, queues, transport, host })
    | .ok (.failed e, transport, host) =>
      .ok (.error (.io e), { worker := lane.worker.fail, queues, transport, host })
termination_by lane.queues.output.length
decreasing_by
  obtain ⟨nonempty, _, split, _⟩ := Writer.issue?_eq lane.worker.capacity_pos _next
  have := List.length_pos_iff.mpr nonempty
  simp only [split, List.length_append]
  omega

def send (lane : Lane) : Asserted (Except SendFailure Nat × Lane) :=
  match lane.worker.state with
  | .failed => .ok (.error (.io .alreadyFailed), lane)
  | .idle => sendAll lane 0
  | .pending size =>
    let n := Writer.outstanding lane.queues size
    if n = 0 then do
      let (transport, host) ← withdraw lane.transport .write lane.host
      sendAll { lane with worker := lane.worker.idle, transport, host } 0
    else do
      match ← pollSend lane.transport (lane.worker.chunk.take n) lane.host with
      | (.pending, transport, host) =>
        let waiting := lane.worker.await n lane.worker.chunk
        return (.ok 0, { lane with worker := waiting, transport, host })
      | (.complete sent, transport, host) =>
        let lane' := { lane with worker := lane.worker.idle, transport, host }
        match Writer.complete sent n with
        | .ok () => sendAll lane' sent
        | .error failure => return (.error failure, lane')
      | (.failed e, transport, host) =>
        return (.error (.io e), { lane with worker := lane.worker.fail, transport, host })

def tick (c : Connection) (q : Queues) (h : Host) : Asserted Connection.Tick := do
  let (read, reader, q, t, h) ← match c.reader with
    | some w => do
      let (read, lane) ← receive ⟨w, q, c.transport, h⟩
      pure (read, some lane.worker, lane.queues, lane.transport, lane.host)
    | none => pure (.ok 0, none, q, c.transport, h)
  let (written, writer, q, t, h) ← match c.writer with
    | some w => do
      let (written, lane) ← send ⟨w, q, t, h⟩
      pure (written, some lane.worker, lane.queues, lane.transport, lane.host)
    | none => pure (.ok 0, none, q, t, h)
  return { read, written, connection := ⟨t, reader, writer⟩, queues := q, host := h }

def drain? (w? : Option Worker) (d : Direction) (t : Transport) (h : Host) :
    Asserted (Transport × Host) :=
  match w? with
  | some w => if w.isPending then drain t d h else .ok (t, h)
  | none => .ok (t, h)

def emptied (c : Connection) (h : Host) : Asserted (Transport × Host) := do
  let (t, h) ← drain? c.reader .read c.transport.cancel h
  drain? c.writer .write t h

def shutdown (c : Connection) (h : Host) : Asserted Host := do
  let (t, h) ← emptied c h
  return t.close h

def close (ep : Endpoint) (h : Host) : Asserted (Endpoint × Host) := do
  let (ep, h) := ep.unbind h
  match ep.connection with
  | none => return (ep, h)
  | some c => return ({ ep with connection := none }, (← shutdown c h).log (.closed ep.name))

def giveUp (ep : Endpoint) (errors : List IoError) (h : Host) : Asserted (Endpoint × Host) :=
  close ep (errors.foldl (fun h e => h.log (.transferFailed ep.name e)) h)

def service (ep : Endpoint) (waits : WaitSet) (h : Host) :
    Asserted (EStateM.Result Fatal Host (Bool × WaitSet × Endpoint)) :=
  match ep.connection with
  | none => .ok (.ok (false, waits, ep) h)
  | some c => do
    let t ← tick c ep.queues h
    match t.read, t.written with
    | _, .error (.sizeMismatch sent issued) =>
      return Action.fatal (.sizeMismatch sent issued) t.host
    | .ok r, .ok w =>
      return .ok (0 < r || 0 < w, waits.extend t.connection.waitHandles, ep.ticked t) t.host
    | .error e, .ok _ =>
      let (ep, h) ← giveUp (ep.ticked t) [e] t.host
      return .ok (true, waits, ep) h
    | .ok _, .error (.io e) =>
      let (ep, h) ← giveUp (ep.ticked t) [e] t.host
      return .ok (true, waits, ep) h
    | .error e, .error (.io e') =>
      let (ep, h) ← giveUp (ep.ticked t) [e, e'] t.host
      return .ok (true, waits, ep) h

/-- No other use of an endpoint comes to a slot. -/
def perform (ep : Endpoint) (use : Endpoint.Use) (h : Host) :
    Asserted (EStateM.Result Fatal Host Endpoint) :=
  match use with
  | .service waits => do
    match ← service ep waits h with
    | .ok (_, _, ep) h => return .ok ep h
    | .error condition h => return .error condition h
  | .close => do
    let (ep, h) ← close ep h
    return .ok ep h
  | use => .ok (ep.perform use h)

variable {lane : Lane} {t : Transport} {h : Host}

theorem startReceive_eq {n : Nat} (free : t.receiving = none) :
    startReceive t n h = .ok (t.startReceive n h) := by
  rw [startReceive, free]
  rfl

theorem startSend_eq {buffer : Bytes} (free : t.sending = none) :
    startSend t buffer h = .ok (t.startSend buffer h) := by
  simp [startSend, free, pollSend, Transport.startSend]

theorem pollSend_eq {op : Operation} {buffer : Bytes} (outstanding : t.sending = some op)
    (whole : op.length = buffer.length) : pollSend t buffer h = .ok (t.pollSend buffer h) := by
  simp [pollSend, outstanding, whole]

theorem withdraw_eq (d : Direction) : withdraw t d h = .ok (t.withdraw d h) := by
  cases d with
  | read =>
    cases outstanding : t.receiving with
    | none =>
      simp [withdraw, drain, Transport.withdraw, Transport.setOperation, Transport.operation,
        outstanding]
    | some op =>
      simp [withdraw, drain, Transport.withdraw, Transport.setOperation, Transport.operation,
        Transport.markCanceled, outstanding]
  | write =>
    cases outstanding : t.sending with
    | none =>
      simp [withdraw, drain, Transport.withdraw, Transport.setOperation, Transport.operation,
        outstanding]
    | some op =>
      simp [withdraw, drain, Transport.withdraw, Transport.setOperation, Transport.operation,
        Transport.markCanceled, outstanding]

theorem receiveAll_of_room {moved : Nat} (free : lane.transport.receiving = none)
    (room : lane.queues.room ≠ 0) :
    receiveAll lane moved =
      match lane.transport.startReceive (min lane.queues.room lane.worker.capacity) lane.host with
      | (.complete data, transport, host) =>
        receiveAll { lane with queues := Reader.complete lane.queues data, transport, host }
          (moved + data.length)
      | (.pending, transport, host) =>
        .ok (.ok moved, { lane with
          worker := lane.worker.await (min lane.queues.room lane.worker.capacity) []
          transport, host })
      | (.failed e, transport, host) =>
        .ok (.error e, { lane with worker := lane.worker.fail, transport, host }) := by
  have asserted := startReceive_eq (h := lane.host)
    (n := min lane.queues.room lane.worker.capacity) free
  generalize lane.transport.startReceive _ lane.host = answer at *
  rw [receiveAll, if_neg room]
  dsimp only
  split
  · rename_i answer'
    cases asserted.symm.trans answer'
  all_goals
    rename_i answer'
    cases asserted.symm.trans answer'
    rfl

theorem receiveAll_eq {moved : Nat} (free : lane.transport.receiving = none) :
    receiveAll lane moved = .ok (Reader.issueAll lane moved) := by
  -- each receive ends before the next one begins
  fun_induction Reader.issueAll lane moved with
  | case1 lane moved full => rw [receiveAll, if_pos full]
  | case2 lane moved room size data transport host answer ih =>
    obtain ⟨_, ended⟩ := Reader.startReceive_eq answer
    rw [receiveAll_of_room free room, answer]
    exact ih (by rw [ended]; rfl)
  | case3 lane moved room size transport host answer =>
    rw [receiveAll_of_room free room, answer]
  | case4 lane moved room size e transport host answer =>
    rw [receiveAll_of_room free room, answer]

theorem receive_eq (lane : Lane) (receives : lane.worker.Receives lane.transport.receiving) :
    receive lane = .ok (Reader.advance lane) := by
  cases state : lane.worker.state with
  | failed => exact absurd state receives.agrees.state_ne_failed
  | idle =>
    simp only [receive, Reader.advance, state]
    exact receiveAll_eq (receives.agrees.slot_of_idle state)
  | pending size =>
    obtain ⟨op, outstanding, rfl, _⟩ := receives.agrees.slot_of_pending state
    simp only [receive, Reader.advance, state]
    by_cases withdrawn : Reader.outstanding lane.queues op.length = 0
    · rw [if_pos withdrawn, if_pos withdrawn, withdraw_eq,
        Reader.withdraw_read lane.host outstanding]
      exact receiveAll_eq rfl
    · rw [if_neg withdrawn, if_neg withdrawn]
      generalize answer : lane.transport.pollReceive (Reader.outstanding lane.queues op.length)
        lane.host = polled
      obtain ⟨outcome, transport, host⟩ := polled
      cases outcome with
      | pending => rfl
      | failed e => rfl
      | complete data =>
        obtain ⟨_, ended⟩ := Reader.pollReceive_eq outstanding answer
        exact receiveAll_eq (by rw [ended]; rfl)

theorem sendAll_of_next {moved : Nat} {chunk : Bytes} {queues : Queues}
    (free : lane.transport.sending = none)
    (next : Writer.issue? lane.queues lane.worker.capacity = some (chunk, queues)) :
    sendAll lane moved =
      match lane.transport.startSend chunk lane.host with
      | (.complete sent, transport, host) =>
        let lane' := { lane with queues, transport, host }
        match Writer.complete sent chunk.length with
        | .ok () => sendAll lane' (moved + sent)
        | .error failure => .ok (.error failure, lane')
      | (.pending, transport, host) =>
        .ok (.ok moved,
          { worker := lane.worker.await chunk.length chunk, queues, transport, host })
      | (.failed e, transport, host) =>
        .ok (.error (.io e), { worker := lane.worker.fail, queues, transport, host }) := by
  rw [sendAll]
  split
  · rename_i none_left
    rw [next] at none_left
    cases none_left
  · rename_i next'
    rw [next] at next'
    cases next'
    rw [startSend_eq free]
    generalize lane.transport.startSend _ lane.host = answer
    obtain ⟨outcome, transport, host⟩ := answer
    cases outcome <;> rfl

theorem sendAll_eq (lane : Lane) (moved : Nat) (free : lane.transport.sending = none) :
    sendAll lane moved = .ok (Writer.issueAll lane moved) := by
  fun_induction Writer.issueAll lane moved with
  | case1 lane moved none_left =>
    rw [sendAll]
    split
    · rfl
    · rename_i next
      rw [none_left] at next
      cases next
  | case2 lane moved chunk queues next sent transport host answer lane' matched ih =>
    obtain ⟨done, left, _, kind, ended⟩ := Writer.startSend_eq answer
    obtain ⟨rfl, rfl⟩ := Writer.of_complete kind
    have free' : transport.sending = none := by rw [ended]; rfl
    have rest := ih free'
    rw [sendAll_of_next free next, answer]
    dsimp only
    rw [matched]
    exact rest
  | case3 lane moved chunk queues next sent transport host answer lane' failure mismatch =>
    rw [sendAll_of_next free next, answer]
    dsimp only
    rw [mismatch]
  | case4 lane moved chunk queues next transport host answer =>
    rw [sendAll_of_next free next, answer]
  | case5 lane moved chunk queues next e transport host answer =>
    rw [sendAll_of_next free next, answer]

theorem send_eq (lane : Lane) (sends : lane.worker.Sends lane.transport.sending) :
    send lane = .ok (Writer.advance lane) := by
  cases state : lane.worker.state with
  | failed => exact absurd state sends.agrees.state_ne_failed
  | idle =>
    simp only [send, Writer.advance, state]
    exact sendAll_eq lane 0 (sends.agrees.slot_of_idle state)
  | pending size =>
    obtain ⟨op, outstanding, rfl, unfinished, _⟩ := sends.agrees.slot_of_pending state
    have whole : lane.worker.chunk.length = op.length := by
      rw [sends.chunk, Worker.pendingSize, state]
    have all : lane.worker.chunk.take op.length = lane.worker.chunk := by
      rw [← whole, List.take_length]
    have some_left : ¬ op.length = 0 := by omega
    simp only [send, Writer.advance, state, Writer.outstanding, some_left, if_false, all]
    rw [pollSend_eq outstanding whole.symm]
    generalize answer : lane.transport.pollSend lane.worker.chunk lane.host = polled
    obtain ⟨outcome, transport, host⟩ := polled
    cases outcome with
    | pending => rfl
    | failed e => rfl
    | complete sent =>
      obtain ⟨done, left, _, kind, ended⟩ := Writer.pollSend_eq outstanding whole answer
      obtain ⟨rfl, rfl⟩ := Writer.of_complete kind
      have rest := sendAll_eq ⟨lane.worker.idle, lane.queues, transport, host⟩ op.length
        (by rw [ended]; rfl)
      simpa [bind, Except.bind, Writer.complete] using rest

theorem tick_eq {c : Connection} {q : Queues} (sound : c.Sound) :
    tick c q h = .ok (c.tick q h) := by
  obtain ⟨sends, _⟩ := Connection.sends_receiveHalf (q := q) (h := h) sound
  obtain ⟨t, reader, writer⟩ := c
  unfold tick Connection.tick
  cases reader with
  | none =>
    cases writer with
    | none => rfl
    | some w =>
      have sent := send_eq ⟨w, q, t, h⟩ (sound.writer w rfl)
      dsimp only [pure, Except.pure, bind, Except.bind]
      rw [sent]
  | some w =>
    have received := receive_eq ⟨w, q, t, h⟩ (sound.reader w rfl)
    dsimp only [pure, Except.pure, bind, Except.bind]
    rw [received]
    cases writer with
    | none => rfl
    | some w' =>
      let done := (Reader.advance ⟨w, q, t, h⟩).2
      have sent := send_eq ⟨w', done.queues, done.transport, done.host⟩ (sends w' rfl)
      dsimp only
      rw [sent]

theorem drain_eq {d : Direction} (canceled : ∀ op, t.operation d = some op → op.canceled = true) :
    drain t d h = .ok (t.drain d h) := by
  unfold drain
  split
  · rfl
  · rename_i op outstanding
    rw [if_pos (canceled op outstanding)]

theorem drain?_eq {w? : Option Worker} {d : Direction}
    (canceled : ∀ op, t.operation d = some op → op.canceled = true) :
    drain? w? d t h = .ok (Worker.drain? w? d t h) := by
  cases w? with
  | none => rfl
  | some w =>
    unfold drain? Worker.drain? Worker.drain
    dsimp only
    split
    · exact drain_eq canceled
    · rfl

/-- A shutdown asks for all to be canceled before it waits for that. -/
theorem emptied_eq (c : Connection) (h : Host) : emptied c h = .ok (c.emptied h) := by
  have kept : (Worker.drain? c.reader .read c.transport.cancel h).1.operation .write =
      c.transport.cancel.operation .write := Worker.drain?_other (by simp)
  rw [emptied, drain?_eq fun _ => Transport.canceled_of_cancel]
  exact drain?_eq fun op outstanding => Transport.canceled_of_cancel (kept.symm.trans outstanding)

variable {ep : Endpoint} {waits : WaitSet}

theorem close_eq (ep : Endpoint) (h : Host) : close ep h = .ok (ep.close h) := by
  unfold close Endpoint.close
  generalize ep.unbind h = step
  obtain ⟨ep', h'⟩ := step
  dsimp only
  cases ep'.connection with
  | none => rfl
  | some c =>
    dsimp only [shutdown]
    rw [emptied_eq]
    rfl

theorem giveUp_eq (ep : Endpoint) (errors : List IoError) (h : Host) :
    giveUp ep errors h = .ok (ep.giveUp errors h) :=
  close_eq ep _

theorem service_eq (sound : ∀ c, ep.connection = some c → c.Sound) :
    service ep waits h = .ok (ep.service waits h) := by
  cases connected : ep.connection with
  | none => rw [Endpoint.service_closed waits connected, service, connected]
  | some c =>
    rw [Endpoint.service_settle waits connected, service, connected]
    dsimp only [bind, Except.bind]
    rw [tick_eq (sound c connected)]
    generalize c.tick ep.queues h = t
    obtain ⟨read, written, connection, queues, host⟩ := t
    cases written with
    | ok w =>
      cases read with
      | ok r => rfl
      | error e =>
        dsimp only
        rw [giveUp_eq]
        rfl
    | error failure =>
      cases failure with
      | sizeMismatch sent issued => cases read <;> rfl
      | io e =>
        cases read
        all_goals
          dsimp only
          rw [giveUp_eq]
          rfl

/-- No use of an endpoint whose workers agree with its slots meets an assertion
that does not hold. -/
theorem perform_eq (use : Endpoint.Use) (sound : ∀ c, ep.connection = some c → c.Sound) :
    perform ep use h = .ok (ep.perform use h) := by
  cases use with
  | service waits =>
    rw [perform, service_eq sound]
    dsimp only [bind, Except.bind]
    simp only [Endpoint.perform, bind, EStateM.bind]
    cases ep.service waits h <;> rfl
  | close =>
    rw [perform, close_eq]
    rfl
  | _ => rfl

end Asserted

end LocalPipe
