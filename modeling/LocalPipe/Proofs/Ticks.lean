import LocalPipe.Proofs.Receiving
import LocalPipe.Proofs.Sending

namespace LocalPipe.Connection

/-- The bytes of a connection that are still to be accepted, first those of the
outstanding send. -/
def unsent (c : Connection) (q : Queues) : Bytes :=
  c.unaccepted ++ q.output

/-- The first half of a tick, up to some host: what comes in goes behind the
input. -/
structure Received (c : Connection) (q : Queues) (h : Host) (t : Tick) (mid : Host) : Prop where
  reads : h.Reads c.transport.descriptor mid
  input : ∃ data, t.queues.input = q.input ++ data ∧
    inbound c.transport.descriptor mid.calls = inbound c.transport.descriptor h.calls ++ data
  unread : c.reader = none → mid = h ∧ t.read = .ok 0
  failed : ∀ e, t.read = .error e → ∃ before n, 0 < n ∧ n ≤ q.readCapacity ∧
    h.Reads c.transport.descriptor before ∧
      receive c.transport.descriptor n before = (.failed e, mid)
  paused : ∀ r, t.read = .ok r → c.reader = none ∨ t.queues.room = 0 ∨ ∃ before n, 0 < n ∧
    h.Reads c.transport.descriptor before ∧
      receive c.transport.descriptor n before = (.pending, mid)

/-- The second half of a tick, from some host: what is accepted is the first
part of what was unsent. -/
structure Sent (c : Connection) (q : Queues) (mid : Host) (t : Tick) : Prop where
  writes : mid.Writes c.transport.descriptor t.host
  output : ∃ sent dropped, c.unsent q = sent ++ dropped ++ t.connection.unsent t.queues ∧
    outbound c.transport.descriptor t.host.calls =
      outbound c.transport.descriptor mid.calls ++ sent ∧
    ∀ total, t.written = .ok total → dropped = []
  unwritten : c.writer = none → t.host = mid ∧ t.written = .ok 0
  failed : ∀ failure, t.written = .error failure → ∃ e before data left, failure = .io e ∧
    mid.Writes c.transport.descriptor before ∧
      transmit c.transport.descriptor data before = (.failed e, left, t.host)
  idle : c.unsent q = [] → t.written = .ok 0

/-- What a tick may do. -/
structure Ticked (c : Connection) (q : Queues) (h : Host) (t : Tick) : Prop where
  halves : ∃ mid, c.Received q h t mid ∧ c.Sent q mid t
  readCapacity : t.queues.readCapacity = q.readCapacity
  descriptor : t.connection.transport.descriptor = c.transport.descriptor
  restores : t.connection.transport.restores = c.transport.restores
  reader : t.connection.reader.isSome = c.reader.isSome
  writer : t.connection.writer.isSome = c.writer.isSome
  sound : ∀ r w, t.read = .ok r → t.written = .ok w → t.connection.Sound

/-- The first half of a tick, as it stands without the second one. -/
def receiveHalf (c : Connection) (q : Queues) (h : Host) : Tick :=
  match c.reader with
  | some w =>
    let done := Reader.advance ⟨w, q, c.transport, h⟩
    ⟨done.1, .ok 0, ⟨done.2.transport, some done.2.worker, c.writer⟩, done.2.queues, done.2.host⟩
  | none => ⟨.ok 0, .ok 0, c, q, h⟩

/-- The second half of a tick, as it stands without the first one. -/
def sendHalf (c : Connection) (q : Queues) (h : Host) : Tick :=
  match c.writer with
  | some w =>
    let done := Writer.advance ⟨w, q, c.transport, h⟩
    ⟨.ok 0, done.1, ⟨done.2.transport, c.reader, some done.2.worker⟩, done.2.queues, done.2.host⟩
  | none => ⟨.ok 0, .ok 0, c, q, h⟩

theorem tick_eq (c : Connection) (q : Queues) (h : Host) :
    c.tick q h =
      let first := c.receiveHalf q h
      { first.connection.sendHalf first.queues first.host with read := first.read } := by
  obtain ⟨t, reader, writer⟩ := c
  cases reader <;> cases writer <;> rfl

variable {c : Connection} {q : Queues} {h : Host}

theorem received_receiveHalf (sound : c.Sound) :
    c.Received q h (c.receiveHalf q h) (c.receiveHalf q h).host := by
  unfold receiveHalf
  split
  · rename_i w present
    have advance := Reader.advance_spec ⟨w, q, c.transport, h⟩ (sound.reader w present)
    obtain ⟨data, queues, grown, _⟩ := advance.queues
    exact ⟨advance.reads, ⟨data, congrArg Queues.input queues, grown⟩, by simp [present],
      advance.failed, fun r ok => Or.inr (advance.paused r ok)⟩
  · rename_i missing
    exact ⟨.start, ⟨[], by simp, by simp⟩, fun _ => ⟨rfl, rfl⟩, by simp, fun _ _ => Or.inl missing⟩

/-- The first half of a tick leaves alone what the second one works on. -/
theorem receiveHalf_frame (sound : c.Sound) :
    (c.receiveHalf q h).queues = { q with input := (c.receiveHalf q h).queues.input } ∧
      (c.receiveHalf q h).connection.transport = { c.transport with
        receiving := (c.receiveHalf q h).connection.transport.receiving } ∧
      (c.receiveHalf q h).connection.writer = c.writer ∧
      (c.receiveHalf q h).connection.reader.isSome = c.reader.isSome := by
  unfold receiveHalf
  split
  · rename_i w present
    have advance := Reader.advance_spec ⟨w, q, c.transport, h⟩ (sound.reader w present)
    obtain ⟨data, queues, _⟩ := advance.queues
    refine ⟨?_, advance.transport, rfl, by simp [present]⟩
    dsimp only
    rw [queues]
    rfl
  · exact ⟨rfl, rfl, rfl, rfl⟩

theorem sound_receiveHalf (sound : c.Sound) {r : Nat} (ok : (c.receiveHalf q h).read = .ok r) :
    (c.receiveHalf q h).connection.Sound := by
  obtain ⟨_, transport, writer, present⟩ := receiveHalf_frame (q := q) (h := h) sound
  refine ⟨fun w' some_reader => ?_, ?_, fun missing => ?_, ?_⟩
  · unfold receiveHalf at ok some_reader ⊢
    split at ok
    · rename_i w present
      have advance := Reader.advance_spec ⟨w, q, c.transport, h⟩ (sound.reader w present)
      simp only [present, Option.some.injEq] at some_reader ⊢
      rw [← some_reader]
      exact advance.agrees r ok
    · rename_i missing
      simp [missing] at some_reader
  · rw [writer, transport]
    exact sound.writer
  · rw [missing] at present
    have none_before : c.reader = none := by simpa using present.symm
    simp only [receiveHalf, none_before]
    exact sound.unread none_before
  · rw [writer, transport]
    exact sound.unwritten

/-- The part of soundness that the second half of a tick needs. -/
theorem sends_receiveHalf (sound : c.Sound) :
    (∀ w, (c.receiveHalf q h).connection.writer = some w →
      w.Sends (c.receiveHalf q h).connection.transport.sending) ∧
    ((c.receiveHalf q h).connection.writer = none →
      (c.receiveHalf q h).connection.transport.sending = none) := by
  obtain ⟨_, transport, writer, _⟩ := receiveHalf_frame (q := q) (h := h) sound
  rw [writer, transport]
  exact ⟨sound.writer, sound.unwritten⟩

theorem sent_sendHalf (sends : ∀ w, c.writer = some w → w.Sends c.transport.sending) :
    c.Sent q h (c.sendHalf q h) := by
  unfold sendHalf
  split
  · rename_i w present
    have advance := Writer.advance_spec ⟨w, q, c.transport, h⟩ (sends w present)
    refine ⟨advance.writes, ?_, by simp [present], advance.failed, fun nothing => ?_⟩
    · simpa [unsent, unaccepted, present, Lane.unsent] using advance.stream
    · refine Writer.advance_of_nothing ⟨w, q, c.transport, h⟩ (sends w present) ?_
      simpa [unsent, unaccepted, present, Lane.unsent] using nothing
  · exact ⟨.start, ⟨[], [], by simp, by simp, by simp⟩, fun _ => ⟨rfl, rfl⟩, by simp, fun _ => rfl⟩

theorem sendHalf_frame (sends : ∀ w, c.writer = some w → w.Sends c.transport.sending) :
    (c.sendHalf q h).queues = { q with output := (c.sendHalf q h).queues.output } ∧
      (c.sendHalf q h).connection.transport = { c.transport with
        sending := (c.sendHalf q h).connection.transport.sending } ∧
      (c.sendHalf q h).connection.reader = c.reader ∧
      (c.sendHalf q h).connection.writer.isSome = c.writer.isSome := by
  unfold sendHalf
  split
  · rename_i w present
    have advance := Writer.advance_spec ⟨w, q, c.transport, h⟩ (sends w present)
    exact ⟨advance.queues, advance.transport, rfl, by simp [present]⟩
  · exact ⟨rfl, rfl, rfl, rfl⟩

/-- The part of soundness that the second half of a tick works on is kept by it. -/
theorem sends_sendHalf (sends : ∀ w, c.writer = some w → w.Sends c.transport.sending)
    (unwritten : c.writer = none → c.transport.sending = none) {total : Nat}
    (ok : (c.sendHalf q h).written = .ok total) :
    (∀ w, (c.sendHalf q h).connection.writer = some w →
      w.Sends (c.sendHalf q h).connection.transport.sending) ∧
    ((c.sendHalf q h).connection.writer = none →
      (c.sendHalf q h).connection.transport.sending = none) := by
  obtain ⟨_, _, _, present⟩ := sendHalf_frame (q := q) (h := h) sends
  refine ⟨fun w' some_writer => ?_, fun missing => ?_⟩
  · unfold sendHalf at ok some_writer ⊢
    split at ok
    · rename_i w present
      have advance := Writer.advance_spec ⟨w, q, c.transport, h⟩ (sends w present)
      simp only [present, Option.some.injEq] at some_writer ⊢
      rw [← some_writer]
      exact advance.agrees total ok
    · rename_i missing
      simp [missing] at some_writer
  · rw [missing] at present
    have none_before : c.writer = none := by simpa using present.symm
    simp only [sendHalf, none_before]
    exact unwritten none_before

theorem sound_sendHalf (sound : c.Sound) {total : Nat}
    (ok : (c.sendHalf q h).written = .ok total) : (c.sendHalf q h).connection.Sound := by
  obtain ⟨_, transport, reader, _⟩ := sendHalf_frame (q := q) (h := h) sound.writer
  obtain ⟨sends, unwritten⟩ := sends_sendHalf sound.writer sound.unwritten ok
  refine ⟨?_, sends, ?_, unwritten⟩
  · rw [reader, transport]
    exact sound.reader
  · rw [reader, transport]
    exact sound.unread

/-- Every tick of a sound connection is as described. -/
theorem ticked (sound : c.Sound) : c.Ticked q h (c.tick q h) := by
  rw [tick_eq]
  dsimp only
  obtain ⟨queues, transport, writer, reader⟩ := receiveHalf_frame (q := q) (h := h) sound
  have received := received_receiveHalf (q := q) (h := h) sound
  obtain ⟨sends, unwritten⟩ := sends_receiveHalf (q := q) (h := h) sound
  have kept := fun r ok => sound_receiveHalf (q := q) (h := h) (r := r) sound ok
  generalize c.receiveHalf q h = first at *
  have sent := sent_sendHalf (q := first.queues) (h := first.host) sends
  obtain ⟨queues', transport', reader', writer'⟩ :=
    sendHalf_frame (q := first.queues) (h := first.host) sends
  have kept' (sound : first.connection.Sound) (total : Nat)
      (ok : (first.connection.sendHalf first.queues first.host).written = .ok total) :=
    sound_sendHalf sound ok
  generalize first.connection.sendHalf first.queues first.host = second at *
  have descriptor : first.connection.transport.descriptor = c.transport.descriptor := by
    rw [transport]
  have unsent : first.connection.unsent first.queues = c.unsent q := by
    rw [Connection.unsent, Connection.unsent, unaccepted, unaccepted, writer, transport, queues]
  have input : second.queues.input = first.queues.input := by rw [queues']
  have room : second.queues.room = first.queues.room := by rw [queues', Queues.room, Queues.room]
  refine ⟨⟨first.host, ⟨received.reads, ?_, received.unread, received.failed, ?_⟩, ?_⟩, ?_, ?_, ?_,
    ?_, ?_, ?_⟩
  · rw [input]
    exact received.input
  · rw [room]
    exact received.paused
  · refine ⟨?_, ?_, ?_, ?_, ?_⟩
    · rw [← descriptor]
      exact sent.writes
    · rw [← descriptor, ← unsent]
      exact sent.output
    · rw [← writer]
      exact sent.unwritten
    · rw [← descriptor]
      exact sent.failed
    · rw [← unsent]
      exact sent.idle
  · rw [queues', queues]
  · rw [transport', descriptor]
  · rw [transport', transport]
  · rw [reader', reader]
  · rw [writer', writer]
  · intro r w ok ok'
    exact kept' (kept r ok) w ok'

end LocalPipe.Connection
