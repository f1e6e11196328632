import LocalPipe.Proofs.Assertions

namespace LocalPipe

/-- What is outstanding for a worker, as its state and its slot both have it. -/
structure Worker.Matches (w : Worker) (slot : Option Operation) : Prop where
  pending_iff : (∃ size, w.state = .pending size) ↔ ∃ op, slot = some op
  operation : ∀ size op, w.state = .pending size → slot = some op →
    op.length = size ∧ 1 ≤ size ∧ size ≤ w.capacity ∧ op.sent < size ∧ op.canceled = false
  working : w.state ≠ .failed

theorem Worker.Matches.of_agrees {w : Worker} {slot : Option Operation} (agrees : w.Agrees slot) :
    w.Matches slot := by
  refine ⟨⟨fun ⟨size, pending⟩ => ?_, fun ⟨op, outstanding⟩ => ?_⟩,
    fun size op pending outstanding => ?_, agrees.state_ne_failed⟩
  · obtain ⟨op, outstanding, _⟩ := agrees.slot_of_pending pending
    exact ⟨op, outstanding⟩
  · subst outstanding
    cases agrees with
    | pending pending => exact ⟨_, pending⟩
  · obtain ⟨op', same, length, unfinished, within, live⟩ := agrees.slot_of_pending pending
    rw [outstanding] at same
    cases same
    subst length
    exact ⟨rfl, by omega, within, unfinished, live⟩

/-- The workers of a connection and its slots match in both directions. A receive
has sent nothing, and a direction without a worker has nothing outstanding. -/
structure Connection.Matched (c : Connection) : Prop where
  reader : ∀ w, c.reader = some w → w.Matches c.transport.receiving
  writer : ∀ w, c.writer = some w → w.Matches c.transport.sending
  unsent : ∀ op, c.transport.receiving = some op → op.sent = 0
  unread : c.reader = none → c.transport.receiving = none
  unwritten : c.writer = none → c.transport.sending = none

theorem Connection.Sound.matched {c : Connection} (sound : c.Sound) : c.Matched where
  reader w present := .of_agrees (sound.reader w present).agrees
  writer w present := .of_agrees (sound.writer w present).agrees
  unsent op outstanding := by
    cases present : c.reader with
    | none =>
      rw [sound.unread present] at outstanding
      cases outstanding
    | some w => exact (sound.reader w present).unsent op outstanding
  unread := sound.unread
  unwritten := sound.unwritten

/-- A receive fails at the end of the stream or by an answer of the host. -/
theorem receive_failure {d : Descriptor} {n : Nat} {h : Host} {e : IoError}
    (failed : (receive d n h).1 = .failed e) : e = .closedByPeer ∨ ∃ errno, e = .os errno := by
  fun_induction receive d n h with
  | case1 =>
    cases failed
    exact Or.inl rfl
  | case2 => cases failed
  | case3 => cases failed
  | case4 h h' answer ih => exact ih failed
  | case5 h errno =>
    cases failed
    exact Or.inr ⟨errno, rfl⟩

/-- A transmission fails when a write takes nothing or by an answer of the host. -/
theorem transmit_failure {d : Descriptor} {data : Bytes} {h : Host} {e : IoError}
    (failed : (transmit d data h).1 = .failed e) : e = .wroteNothing ∨ ∃ errno, e = .os errno := by
  fun_induction transmit d data h with
  | case1 => cases failed
  | case2 =>
    cases failed
    exact Or.inl rfl
  | case3 data h _ n h' answer ih => exact ih failed
  | case4 => cases failed
  | case5 data h _ h' answer ih => exact ih failed
  | case6 data h _ errno =>
    cases failed
    exact Or.inr ⟨errno, rfl⟩

/-- The failures of a tick are those of its calls: the end of the stream, a write
that takes nothing, and errors of the host. -/
theorem Connection.tick_failures {c : Connection} {q : Queues} {h : Host} (sound : c.Sound) :
    (∀ e, (c.tick q h).read = .error e → e = .closedByPeer ∨ ∃ errno, e = .os errno) ∧
    ∀ failure, (c.tick q h).written = .error failure →
      failure = .io .wroteNothing ∨ ∃ errno, failure = .io (.os errno) := by
  obtain ⟨mid, received, sent⟩ := (c.ticked (q := q) (h := h) sound).halves
  refine ⟨fun e failed => ?_, fun failure failed => ?_⟩
  · obtain ⟨before, n, _, _, _, answer⟩ := received.failed e failed
    exact receive_failure (by rw [answer])
  · obtain ⟨e, before, data, left, rfl, _, answer⟩ := sent.failed failure failed
    rcases transmit_failure (e := e) (by rw [answer]) with rfl | ⟨errno, rfl⟩
    · exact Or.inl rfl
    · exact Or.inr ⟨errno, rfl⟩

/-- What the agreement of workers and slots comes to for an endpoint: no assertion
fails, the errors of a transport or worker that is out of step never come up, a
send is never found to have another size than it began with, and nothing is
outstanding when a descriptor is released, be it by a close or by a tick that
fails. -/
structure Endpoint.InStep (ep : Endpoint) : Prop where
  matched : ∀ c, ep.connection = some c → c.Matched
  asserted : ∀ use h, Asserted.perform ep use h = .ok (ep.perform use h)
  read : ∀ c h e, ep.connection = some c → (c.tick ep.queues h).read = .error e →
    e ≠ .noOperation ∧ e ≠ .alreadyFailed
  written : ∀ c h failure, ep.connection = some c → (c.tick ep.queues h).written = .error failure →
    failure ≠ .io .noOperation ∧ failure ≠ .io .alreadyFailed ∧
      ∀ sent issued, failure ≠ .sizeMismatch sent issued
  served : ∀ waits h, ∃ answer h', ep.service waits h = .ok answer h'
  closed : ∀ c h, ep.connection = some c →
    c.shutdown h = (c.emptied h).1.close (c.emptied h).2 ∧
      (c.emptied h).1.receiving = none ∧ (c.emptied h).1.sending = none
  givenUp : ∀ c h h', ep.connection = some c →
    let left := (c.tick ep.queues h).connection
    left.shutdown h' = (left.emptied h').1.close (left.emptied h').2 ∧
      (left.emptied h').1.receiving = none ∧ (left.emptied h').1.sending = none

/-- Workers and slots of an endpoint agree, whatever was done with it. -/
theorem EndpointReach.inStep {config : PipeConfig} {ep : Endpoint}
    (reach : EndpointReach config ep) : ep.InStep := by
  have sound := reach.orderly.sound
  refine ⟨fun c connected => (sound c connected).matched,
    fun use h => Asserted.perform_eq use sound, fun c h e connected failed => ?_,
    fun c h failure connected failed => ?_, fun waits h => ?_, fun c h connected => ?_,
    fun c h h' connected => ?_⟩
  · obtain ⟨reads, _⟩ := c.tick_failures (q := ep.queues) (h := h) (sound c connected)
    rcases reads e failed with rfl | ⟨errno, rfl⟩
    · decide
    · exact ⟨by simp [IoError.noOperation], by simp [IoError.alreadyFailed]⟩
  · obtain ⟨_, writes⟩ := c.tick_failures (q := ep.queues) (h := h) (sound c connected)
    rcases writes failure failed with rfl | ⟨errno, rfl⟩
    · simp [IoError.wroteNothing, IoError.noOperation, IoError.alreadyFailed]
    · simp [IoError.noOperation, IoError.alreadyFailed]
  · obtain ⟨_, _, _, h', run, _⟩ := ep.service_sound waits h sound
    exact ⟨_, h', run⟩
  · exact ⟨c.shutdown_emptied h, (sound c connected).drains.emptied h⟩
  · refine ⟨Connection.shutdown_emptied _ h', ?_⟩
    exact (Connection.tick_drains (sound c connected)).emptied h'

/-- A host with a link that takes two bytes. -/
def narrow : Host :=
  { links := ⟨[("out", { capacity := 2 })]⟩
    descriptors := [⟨0, ⟨"out", .a⟩⟩]
    nextDescriptor := 1 }

/-- A send of three bytes, two of which were accepted, is outstanding for its
worker and in its slot alike. -/
theorem EndpointReach.inStep_narrow : ∃ ep c w, EndpointReach {} ep ∧ ep.InStep ∧
    ep.connection = some c ∧ c.writer = some w ∧ w.state = .pending 3 ∧
      c.transport.sending = some { length := 3, sent := 2 } := by
  let d : Descriptor := ⟨0, ⟨"out", .a⟩⟩
  have outstanding : ((Endpoint.performAll [.adopt d .write "out", .write [1, 2, 3], .service {}]
      (.ofConfig {}) narrow).bind (·.1.connection)).map
        (fun c => (c.writer.map (·.state), c.transport.sending)) =
      some (some (.pending 3), some { length := 3, sent := 2 }) := by
    decide +kernel
  obtain ⟨c, connected, shown⟩ := Option.map_eq_some_iff.mp outstanding
  obtain ⟨⟨ep, h⟩, performed, connected⟩ := Option.bind_eq_some_iff.mp connected
  simp only [Prod.mk.injEq] at shown
  obtain ⟨state, slot⟩ := shown
  obtain ⟨w, present, pending⟩ := Option.map_eq_some_iff.mp state
  have reach : EndpointReach {} ep := EndpointReach.start.performAll performed
  exact ⟨ep, c, w, reach, reach.inStep, connected, present, pending, slot⟩

end LocalPipe
