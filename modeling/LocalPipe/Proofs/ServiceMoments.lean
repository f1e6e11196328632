import LocalPipe.Proofs.Handles
import LocalPipe.Proofs.MeasuredReads

namespace LocalPipe

theorem length_receive (d : Descriptor) (n : Nat) (h : Host) :
    (receive d n h).1.bytes.length ≤ n := by
  have brought {h h' : Host} {result : Except Errno Bytes} (answer : h.read d n = (result, h')) :
      (answered result).length ≤ n := by
    have within := h.length_read d n
    rwa [answer] at within
  fun_induction receive d n h with
  | case2 h data h' _ answer => exact brought answer
  | case4 h h' answer ih => exact ih
  | _ => exact Nat.zero_le n

namespace Reader

/-- The states of a lane while it receives: the outstanding receive was withdrawn or is
complete, or one more receive is, and in the end what the advance leaves. -/
inductive Passes (lane : Lane) : Lane → Prop
  | start : Passes lane lane
  | withdrawn {size transport host} : lane.worker.state = .pending size →
      outstanding lane.queues size = 0 →
      lane.transport.withdraw .read lane.host = (transport, host) →
      Passes lane { lane with worker := lane.worker.idle, transport, host }
  | resumed {size data transport host} : lane.worker.state = .pending size →
      lane.transport.pollReceive (outstanding lane.queues size) lane.host =
        (.complete data, transport, host) →
      Passes lane ⟨lane.worker.idle, complete lane.queues data, transport, host⟩
  | received {mid : Lane} {data transport host} : Passes lane mid → mid.queues.room ≠ 0 →
      mid.transport.startReceive (min mid.queues.room mid.worker.capacity) mid.host =
        (.complete data, transport, host) →
      Passes lane { mid with queues := complete mid.queues data, transport, host }
  | ended : Passes lane (advance lane).2

end Reader

/-- Queues after some receives: only the input has grown, and up to the limit at most. -/
structure Queues.Filled (q q' : Queues) : Prop where
  input : q'.input.length ≤ max q.input.length q.readCapacity
  rest : q' = { q with input := q'.input }

namespace Queues.Filled

variable {q q' q'' : Queues} {data : Bytes} {n : Nat}

theorem refl (q : Queues) : q.Filled q :=
  ⟨Nat.le_max_left _ _, rfl⟩

theorem trans (first : q.Filled q') (second : q'.Filled q'') : q.Filled q'' := by
  have limit : q'.readCapacity = q.readCapacity := by rw [first.rest]
  refine ⟨?_, by rw [second.rest, first.rest]⟩
  have before := first.input
  have after := second.input
  omega

theorem of_complete (fits : data.length ≤ n) (roomy : n ≤ q.room) :
    q.Filled (Reader.complete q data) := by
  refine ⟨?_, rfl⟩
  rw [Reader.complete, List.length_append]
  rw [room] at roomy
  omega

end Queues.Filled

namespace Reader

variable {lane mid : Lane} {n : Nat} {data : Bytes} {transport : Transport} {host : Host}

theorem length_pollReceive {t : Transport} {h : Host}
    (answer : t.pollReceive n h = (.complete data, transport, host)) : data.length ≤ n := by
  unfold Transport.pollReceive at answer
  split at answer
  · cases answer
  · have within := length_receive t.descriptor n h
    split at answer
    · cases answer
    · rename_i received
      cases answer
      rw [received] at within
      exact within

/-- At no moment does the input outgrow both the limit and what it held before. -/
theorem Passes.filled (passes : Passes lane mid)
    (receives : lane.worker.Receives lane.transport.receiving) :
    lane.queues.Filled mid.queues := by
  induction passes with
  | start => exact .refl _
  | withdrawn => exact .refl _
  | resumed _ answer => exact .of_complete (length_pollReceive answer) (Nat.min_le_right _ _)
  | received _ _ answer ih =>
    exact ih.trans (.of_complete (length_pollReceive answer) (Nat.min_le_left _ _))
  | ended =>
    obtain ⟨later, fills⟩ := advance_fills lane receives
    have grown := fills.measured.length_le
    refine ⟨?_, by rw [fills.queues]; rfl⟩
    rw [fills.queues, complete, List.length_append]
    exact grown

end Reader

namespace Writer

/-- The states of a lane while it sends: the outstanding send was withdrawn or is
complete, the next chunk has left the output, or its send is complete, and in the end
what the advance leaves. -/
inductive Passes (lane : Lane) : Lane → Prop
  | start : Passes lane lane
  | withdrawn {size transport host} : lane.worker.state = .pending size →
      outstanding lane.queues size = 0 →
      lane.transport.withdraw .write lane.host = (transport, host) →
      Passes lane { lane with worker := lane.worker.idle, transport, host }
  | resumed {size sent transport host} : lane.worker.state = .pending size →
      lane.transport.pollSend (lane.worker.chunk.take size) lane.host =
        (.complete sent, transport, host) →
      Passes lane { lane with worker := lane.worker.idle, transport, host }
  | issued {mid : Lane} {chunk queues} : Passes lane mid →
      issue? mid.queues mid.worker.capacity = some (chunk, queues) →
      Passes lane { mid with queues }
  | sent {mid : Lane} {chunk queues sent transport host} : Passes lane mid →
      issue? mid.queues mid.worker.capacity = some (chunk, queues) →
      mid.transport.startSend chunk mid.host = (.complete sent, transport, host) →
      Passes lane { mid with queues, transport, host }
  | ended : Passes lane (advance lane).2

variable {lane mid : Lane} {moved : Nat} {answer : Except SendFailure Nat × Lane}

theorem Issues.toSend_le (issues : Issues lane moved answer)
    (idle : lane.worker.state = .idle) : answer.2.toSend ≤ lane.queues.output.length := by
  induction issues with
  | done => simp [Lane.toSend, Worker.pendingSize, idle]
  | next next _ _ ih =>
    have rest := ih idle
    rw [next.split, List.length_append]
    exact Nat.le_trans rest (Nat.le_add_left _ _)
  | pending next =>
    rw [next.split, List.length_append]
    simp only [Lane.toSend, Worker.pendingSize, Worker.await]
    omega
  | failed next =>
    rw [next.split, List.length_append]
    simp only [Lane.toSend, Worker.pendingSize, Worker.fail]
    omega

theorem Run.toSend_le (run : Run lane answer) : answer.2.toSend ≤ lane.toSend := by
  cases run with
  | idle idle _ issues => exact Nat.le_trans (issues.toSend_le idle) (Nat.le_add_right _ _)
  | pending holds =>
    simp [Lane.toSend, Worker.pendingSize, Worker.await, holds.state]
  | complete _ _ issues => exact Nat.le_trans (issues.toSend_le rfl) (Nat.le_add_right _ _)
  | failed => simp [Lane.toSend, Worker.pendingSize, Worker.fail]

/-- At no moment is there more to send than before, and the input stays as it is. -/
theorem Passes.drained (passes : Passes lane mid)
    (sends : lane.worker.Sends lane.transport.sending) :
    mid.toSend ≤ lane.toSend ∧ mid.queues = { lane.queues with output := mid.queues.output } := by
  have fewer {mid : Lane} {chunk : Bytes} {queues : Queues}
      (next : issue? mid.queues mid.worker.capacity = some (chunk, queues)) :
      queues.output.length ≤ mid.queues.output.length := by
    have split := (Next.of_issue next).split
    rw [split, List.length_append]
    exact Nat.le_add_left _ _
  induction passes with
  | start => exact ⟨Nat.le_refl _, rfl⟩
  | withdrawn => exact ⟨Nat.add_le_add_left (Nat.zero_le _) _, rfl⟩
  | resumed => exact ⟨Nat.add_le_add_left (Nat.zero_le _) _, rfl⟩
  | @issued mid chunk queues _ next ih =>
    obtain ⟨within, same⟩ := ih
    refine ⟨Nat.le_trans (Nat.add_le_add_right (fewer next) _) within, ?_⟩
    rw [(Next.of_issue next).same, same]
  | @sent mid chunk queues _ _ _ _ next _ ih =>
    obtain ⟨within, same⟩ := ih
    refine ⟨Nat.le_trans (Nat.add_le_add_right (fewer next) _) within, ?_⟩
    rw [(Next.of_issue next).same, same]
  | ended =>
    exact ⟨(advance_run lane sends).toSend_le, (advance_spec lane sends).queues⟩

end Writer

namespace Endpoint

/-- An endpoint at some moment of a service: before it, while its connection receives
and then sends, and after it. -/
inductive During (ep : Endpoint) (h : Host) : Endpoint → Prop
  | before : During ep h ep
  | receiving {c : Connection} {w : Worker} {lane : Lane} : ep.connection = some c →
      c.reader = some w → Reader.Passes ⟨w, ep.queues, c.transport, h⟩ lane →
      During ep h { ep with
        connection := some ⟨lane.transport, some lane.worker, c.writer⟩, queues := lane.queues }
  | sending {c : Connection} {t : Connection.Tick} {w : Worker} {lane : Lane} :
      ep.connection = some c → c.receiveHalf ep.queues h = t → t.connection.writer = some w →
      Writer.Passes ⟨w, t.queues, t.connection.transport, t.host⟩ lane →
      During ep h { ep with
        connection := some ⟨lane.transport, t.connection.reader, some lane.worker⟩,
        queues := lane.queues }
  | after {waits waits' : WaitSet} {moved : Bool} {ep' : Endpoint} {h' : Host} :
      ep.service waits h = .ok (moved, waits', ep') h' → During ep h ep'

/-- Nothing is ever received by an endpoint. -/
def Unread (ep : Endpoint) : Prop :=
  ∀ c, ep.connection = some c → c.reader = none

/-- What an endpoint holds at a moment of a service is no more than before, or than it
may receive. -/
structure Contains (ep ep' : Endpoint) : Prop where
  limit : ep'.readBufferSize = ep.readBufferSize
  available : ep'.bytesAvailable ≤ max ep.bytesAvailable ep.readBufferSize
  toSend : ep'.bytesToSend ≤ ep.bytesToSend
  unread : ep.Unread → ep'.Unread ∧ ep'.bytesAvailable ≤ ep.bytesAvailable

variable {ep mid : Endpoint} {c : Connection} {h : Host}

theorem Contains.refl (ep : Endpoint) : ep.Contains ep :=
  ⟨rfl, Nat.le_max_left _ _, Nat.le_refl _, fun unread => ⟨unread, Nat.le_refl _⟩⟩

theorem Contains.read (ep : Endpoint) (n : Nat) : ep.Contains (ep.read n).2 := by
  have fewer : (ep.read n).2.bytesAvailable ≤ ep.bytesAvailable :=
    (List.drop_sublist n ep.queues.input).length_le
  exact ⟨rfl, Nat.le_trans fewer (Nat.le_max_left _ _), Nat.le_refl _,
    fun unread => ⟨unread, fewer⟩⟩

end Endpoint

namespace Connection

variable {c : Connection} {q : Queues} {h : Host}

theorem receiveHalf_filled (sound : c.Sound) : q.Filled (c.receiveHalf q h).queues := by
  unfold receiveHalf
  split
  · rename_i w present
    have passes : Reader.Passes ⟨w, q, c.transport, h⟩ _ := .ended
    exact passes.filled (sound.reader w present)
  · exact .refl q

theorem receiveHalf_toSend (sound : c.Sound) :
    (c.receiveHalf q h).connection.toSend (c.receiveHalf q h).queues = c.toSend q := by
  obtain ⟨_, _, writer, _⟩ := receiveHalf_frame (q := q) (h := h) sound
  have filled := receiveHalf_filled (q := q) (h := h) sound
  rw [toSend, toSend, writer, filled.rest]

theorem receiveHalf_unread (unread : c.reader = none) :
    (c.receiveHalf q h).queues = q ∧ (c.receiveHalf q h).connection = c := by
  simp [receiveHalf, unread]

theorem sendHalf_toSend (sends : ∀ w, c.writer = some w → w.Sends c.transport.sending) :
    (c.sendHalf q h).connection.toSend (c.sendHalf q h).queues ≤ c.toSend q := by
  unfold sendHalf
  split
  · rename_i w present
    have passes : Writer.Passes ⟨w, q, c.transport, h⟩ _ := .ended
    obtain ⟨fewer, _⟩ := passes.drained (sends w present)
    simpa [toSend, present, Lane.toSend] using fewer
  · exact Nat.le_refl _

end Connection

namespace Endpoint

variable {ep mid : Endpoint} {c : Connection} {h : Host}

theorem Contains.of_received (connected : ep.connection = some c) (sound : c.Sound)
    (queues : mid.queues =
      { (c.receiveHalf ep.queues h).queues with output := mid.queues.output })
    (reader : ∀ c', mid.connection = some c' →
      c'.reader = (c.receiveHalf ep.queues h).connection.reader)
    (toSend : mid.bytesToSend ≤
      (c.receiveHalf ep.queues h).connection.toSend (c.receiveHalf ep.queues h).queues) :
    ep.Contains mid := by
  have filled := Connection.receiveHalf_filled (q := ep.queues) (h := h) sound
  refine ⟨?_, ?_, ?_, fun unread => ?_⟩
  · rw [readBufferSize, queues, filled.rest, readBufferSize]
  · rw [bytesAvailable, queues]
    exact filled.input
  · rw [Connection.receiveHalf_toSend sound] at toSend
    rw [bytesToSend_of_connected connected]
    exact toSend
  · obtain ⟨same, kept⟩ := Connection.receiveHalf_unread (q := ep.queues) (h := h)
      (unread c connected)
    have received : mid.bytesAvailable = ep.bytesAvailable := by
      rw [bytesAvailable, queues, same, bytesAvailable]
    refine ⟨fun c' present => ?_, Nat.le_of_eq received⟩
    rw [reader c' present, kept]
    exact unread c connected

/-- At each moment of a service, an endpoint has no more to send than before, and has
received no more than it may. -/
theorem During.contains (sound : ∀ c, ep.connection = some c → c.Sound)
    (during : ep.During h mid) : ep.Contains mid := by
  cases during with
  | before => exact .refl ep
  | @receiving c w lane connected reads passes =>
    have filled := passes.filled ((sound c connected).reader w reads)
    refine ⟨by rw [readBufferSize, filled.rest, readBufferSize], filled.input, ?_, fun unread => ?_⟩
    · refine Nat.le_of_eq ?_
      rw [bytesToSend_of_connected connected, bytesToSend_of_connected rfl, Connection.toSend,
        Connection.toSend, filled.rest]
    · have nothing := unread c connected
      rw [reads] at nothing
      cases nothing
  | @sending c _ w lane connected received writes passes =>
    subst received
    obtain ⟨sends, _⟩ := Connection.sends_receiveHalf (q := ep.queues) (h := h) (sound c connected)
    obtain ⟨fewer, queues⟩ := passes.drained (sends w writes)
    refine .of_received connected (sound c connected) queues ?_ ?_
    · rintro c' ⟨⟩
      rfl
    · rw [Connection.toSend, writes]
      exact fewer
  | @after waits waits' moved ep' h' run =>
    cases connected : ep.connection with
    | none =>
      rw [service_closed waits connected] at run
      cases run
      exact .refl ep
    | some c =>
      have served := served_of_run connected (sound c connected) run
      obtain ⟨sends, _⟩ :=
        Connection.sends_receiveHalf (q := ep.queues) (h := h) (sound c connected)
      have fewer := Connection.sendHalf_toSend (q := (c.receiveHalf ep.queues h).queues)
        (h := (c.receiveHalf ep.queues h).host) sends
      obtain ⟨queues, _, reader, _⟩ := Connection.sendHalf_frame
        (q := (c.receiveHalf ep.queues h).queues) (h := (c.receiveHalf ep.queues h).host) sends
      rw [Connection.tick_eq] at served
      cases served with
      | kept =>
        refine .of_received connected (sound c connected) queues ?_ fewer
        rintro c' ⟨⟩
        exact reader
      | failed errors _ =>
        rw [giveUp_fst]
        refine .of_received connected (sound c connected) queues ?_ ?_
        · rintro c' ⟨⟩
        · exact Nat.le_trans (Nat.le_add_right _ _) fewer

end Endpoint

end LocalPipe
