import LocalPipe.Proofs.RelayStreams

namespace LocalPipe

open Host

namespace Endpoint

variable {ep ep' : Endpoint} {h h' : Host} {waits waits' : WaitSet} {moved : Bool}

/-- An endpoint that only receives, and has no room for a single byte, never
closes by itself. -/
theorem service_starved {d : Descriptor} (holds : ep.Holds d)
    (receives : ∀ c, ep.connection = some c → c.writer = none)
    (full : ep.queues.readCapacity = 0) (opened : ep.connection ≠ none)
    (run : ep.service waits h = .ok (moved, waits', ep') h') : ep'.connection ≠ none := by
  obtain ⟨c, connected⟩ := Option.ne_none_iff_exists'.mp opened
  obtain ⟨sound, _⟩ := holds c connected
  obtain ⟨mid, received, sent⟩ := (c.ticked (q := ep.queues) (h := h) sound).halves
  have served := served_of_run connected sound run
  cases served with
  | kept => simp [ticked]
  | failed errors failure =>
    rcases failure with ⟨e, read⟩ | ⟨failure, written⟩
    · obtain ⟨_, n, positive, within, _⟩ := received.failed e read
      omega
    · rw [(sent.unwritten (receives c connected)).2] at written
      cases written

/-- Service gives no endpoint a worker that it had not. -/
theorem service_writer {d : Descriptor} (holds : ep.Holds d)
    (receives : ∀ c, ep.connection = some c → c.writer = none)
    (run : ep.service waits h = .ok (moved, waits', ep') h') :
    ∀ c, ep'.connection = some c → c.writer = none := by
  intro c' present
  cases connected : ep.connection with
  | none =>
    rw [service_closed waits connected] at run
    cases run
    exact receives c' present
  | some c =>
    obtain ⟨sound, _⟩ := holds c connected
    have same := (c.ticked (q := ep.queues) (h := h) sound).writer
    have served := served_of_run connected sound run
    cases served with
    | kept =>
      cases present
      rw [receives c connected] at same
      simpa using same
    | failed errors _ =>
      rw [giveUp_fst] at present
      cases present

theorem unsent_of_bytesToSend {d : Descriptor} (holds : ep.Holds d) (flushed : ep.bytesToSend = 0) :
    ep.unsent = [] := by
  simp only [bytesToSend, Nat.add_eq_zero_iff, List.length_eq_zero_iff] at flushed
  obtain ⟨empty, idle⟩ := flushed
  rw [unsent, empty, List.append_nil, unaccepted]
  split
  · rename_i c connected
    rw [connected] at idle
    unfold Connection.unaccepted
    split
    · rename_i w present
      have whole := ((holds c connected).1.writer w present).chunk
      simp only [Option.bind_some, present, Option.map_some, Option.getD_some] at idle
      rw [idle, List.length_eq_zero_iff] at whole
      unfold Worker.unaccepted
      split
      · rw [whole, List.drop_nil]
      · rfl
    · rfl
  · rfl

end Endpoint

/-- What a relay's source keeps to: it only receives, up to the relay's limit.
With a limit of zero it never closes. -/
structure Trio.Fed (config : PipeConfig) (t : Trio) : Prop where
  readCapacity : t.source.queues.readCapacity = config.readBufferSize
  receives : ∀ c, t.source.connection = some c → c.writer = none
  starved : config.readBufferSize = 0 → t.source.connection ≠ none

/-- Whether a relay may stop: the sink is closed, or everything was sent and one
of the two others is closed with nothing left of it. -/
def Trio.Settled (t : Trio) : Prop :=
  t.sink.connection = none ∨ t.conn.queues.input = [] ∧ t.sink.unsent = [] ∧
    (t.conn.connection = none ∨
      t.source.connection = none ∧ t.source.queues.input = [] ∧ t.conn.unsent = [])

namespace Trio

variable {t t' : Trio} {h h' : Host} {w : Wiring} {earlier : List Call} {config : PipeConfig}
  {waits : WaitSet} {place : Nat} {moved : Bool}

theorem Fed.serves (fed : t.Fed config) (carries : w.Carries earlier t h)
    (serves : t.Serves waits place h moved t' h') : t'.Fed config := by
  cases serves with
  | conn => exact ⟨fed.readCapacity, fed.receives, fed.starved⟩
  | sink => exact ⟨fed.readCapacity, fed.receives, fed.starved⟩
  | source run =>
    have serviced := Endpoint.serviced carries.source run
    refine ⟨serviced.readCapacity.trans fed.readCapacity,
      Endpoint.service_writer carries.source fed.receives run, fun empty => ?_⟩
    exact Endpoint.service_starved carries.source fed.receives (fed.readCapacity.trans empty)
      (fed.starved empty) run

theorem Fed.forwarded (fed : t.Fed config) (limit : Nat) : (t.forwarded limit).Fed config :=
  ⟨fed.readCapacity, fed.receives, fed.starved⟩

/-- Once a relay may stop, services of the source and the sink change
nothing about that. -/
theorem Settled.serves (settled : t.Settled) (carries : w.Carries earlier t h)
    (late : 1 ≤ place) (serves : t.Serves waits place h moved t' h') : t'.Settled := by
  cases serves with
  | conn => omega
  | source run =>
    have serviced := Endpoint.serviced carries.source run
    rcases settled with closed | ⟨empty, flushed, closed | ⟨closed, unread, unsent⟩⟩
    · exact Or.inl closed
    · exact Or.inr ⟨empty, flushed, Or.inl closed⟩
    · obtain ⟨rfl, rfl⟩ := serviced.stays closed
      exact Or.inr ⟨empty, flushed, Or.inr ⟨closed, unread, unsent⟩⟩
  | @sink _ _ _ _ ep _ run =>
    have serviced := Endpoint.serviced carries.sink run
    by_cases opened : ep.connection = none
    · exact Or.inl opened
    · rcases settled with closed | ⟨empty, flushed, rest⟩
      · obtain ⟨rfl, rfl⟩ := serviced.stays closed
        exact Or.inl closed
      · obtain ⟨sent, dropped, split, _⟩ := serviced.outgoing
        rw [flushed] at split
        have nothing := (List.append_eq_nil_iff.mp split.symm).2
        exact Or.inr ⟨empty, nothing, rest⟩

theorem roomAt_of_closed {ep : Endpoint} {limit : Nat} (closed : ep.connection = none) :
    Relay.roomAt limit (some ep) = 0 := by
  simp [Relay.roomAt, Endpoint.isClosed, closed]

theorem Settled.forwarded (settled : t.Settled) (limit : Nat) : (t.forwarded limit).Settled := by
  rcases settled with closed | ⟨empty, flushed, rest⟩
  · exact Or.inl closed
  · have up : handOver limit t.source t.conn = (t.source, t.conn) := by
      apply handOver_nothing
      rcases rest with closed | ⟨_, unread, _⟩
      · rw [roomAt_of_closed closed]
        rfl
      · rw [Endpoint.peek, unread, List.take_nil]
    have down : handOver limit t.conn t.sink = (t.conn, t.sink) := by
      apply handOver_nothing
      rw [Endpoint.peek, empty, List.take_nil]
    have same : t.forwarded limit = t := by
      simp only [Trio.forwarded, up, down]
    rw [same]
    exact Or.inr ⟨empty, flushed, rest⟩

/-- Once everything is sent after a forwarding, nothing was left to forward, or
there is no room for anything. -/
theorem nothing_left {limit : Nat} {origin destination : Endpoint}
    (opened : destination.connection ≠ none)
    (flushed : (handOver limit origin destination).2.bytesToSend = 0) :
    limit = 0 ∨ (handOver limit origin destination).1.queues.input = [] := by
  have output : (handOver limit origin destination).2.queues.output =
      destination.queues.output ++
        origin.queues.input.take (Relay.roomAt limit (some destination)) := rfl
  have same : (handOver limit origin destination).2.connection = destination.connection := rfl
  simp only [Endpoint.bytesToSend, output, same, List.length_append] at flushed
  have nothing : origin.queues.input.take (Relay.roomAt limit (some destination)) = [] := by
    rw [← List.length_eq_zero_iff]
    omega
  have idle : destination.bytesToSend = 0 := by
    simp only [Endpoint.bytesToSend]
    omega
  have room : Relay.roomAt limit (some destination) = limit := by
    simp [Relay.roomAt, Endpoint.isClosed, opened, idle]
  rw [handOver_nothing nothing]
  rw [room] at nothing
  exact List.take_eq_nil_iff.mp nothing

/-- A relay that finds itself finished may stop. -/
theorem settled_of_finished (fed : t.Fed config) (conn : t.conn.Holds w.conn)
    (sink : t.sink.Holds w.output)
    (finished : (t.forwarded config.readBufferSize).isFinished config = true) :
    (t.forwarded config.readBufferSize).Settled := by
  let after := t.forwarded config.readBufferSize
  have check : (if after.sink.isClosed then true else
      decide (after.sink.bytesToSend = 0 ∧ (after.conn.isClosed ∧ after.conn.bytesAvailable = 0 ∨
        (after.source.isClosed ∧ after.source.bytesAvailable = 0) ∧
          after.conn.bytesToSend = 0))) = true := finished
  by_cases closed : after.sink.connection = none
  · exact Or.inl closed
  · rw [if_neg (by simpa [Endpoint.isClosed] using closed)] at check
    obtain ⟨flushed, rest⟩ := of_decide_eq_true check
    have unsent : after.sink.unsent = [] := Endpoint.unsent_of_bytesToSend (d := w.output) sink flushed
    refine Or.inr ?_
    rcases rest with ⟨ended, empty⟩ | ⟨⟨ended, unread⟩, sent⟩
    · refine ⟨List.length_eq_zero_iff.mp empty, unsent, Or.inl ?_⟩
      simpa [Endpoint.isClosed] using ended
    · have sourceClosed : after.source.connection = none := by
        simpa [Endpoint.isClosed] using ended
      have empty : after.conn.queues.input = [] := by
        rcases @nothing_left config.readBufferSize
          (handOver config.readBufferSize t.source t.conn).2 t.sink closed flushed with none_fits | empty
        · -- with no room at all nothing was ever read, so the source is still open
          exact absurd sourceClosed (fed.starved none_fits)
        · exact empty
      exact ⟨empty, unsent, Or.inr ⟨sourceClosed, List.length_eq_zero_iff.mp unread,
        Endpoint.unsent_of_bytesToSend (d := w.conn) conn sent⟩⟩

end Trio

namespace RelayReach

variable {config : PipeConfig} {first t : Trio} {h₀ h : Host} {place : Nat} {exiting : Bool}
  {w : Wiring} {earlier : List Call}

theorem fed (reach : RelayReach config first h₀ place exiting t h)
    (start : w.Carries earlier first h₀) (fed : first.Fed config) : t.Fed config := by
  induction reach with
  | start => exact fed
  | rest before serves ih => exact ih.serves (before.carries start) serves
  | move events before serves ih =>
    exact (ih.serves (before.carries start) serves).forwarded _
  | turn _ _ ih => exact ih

/-- A relay that was told to stop may stop, and its connection is not serviced
any more. -/
theorem settled (reach : RelayReach config first h₀ place exiting t h)
    (start : w.Carries earlier first h₀) (fed : first.Fed config) (told : exiting = true) :
    1 ≤ place ∧ t.Settled := by
  induction reach with
  | start => cases told
  | rest before serves ih =>
    obtain ⟨late, settled⟩ := ih told
    exact ⟨by omega, settled.serves (before.carries start) late serves⟩
  | @move place exiting t t' h h' waits events before serves ih =>
    refine ⟨by omega, ?_⟩
    have carries := before.carries start
    have carries' := carries.serves serves
    cases exiting with
    | true =>
      obtain ⟨late, settled⟩ := ih rfl
      exact (settled.serves carries late serves).forwarded _
    | false =>
      -- here the loop is told to stop, by the check that follows the forwarding
      have fed' := (before.fed start fed).serves carries serves
      exact Trio.settled_of_finished fed' carries'.conn carries'.sink told
  | turn => cases told

end RelayReach

end LocalPipe
