import LocalPipe.Proofs.Serving

namespace LocalPipe

theorem Worker.isPending_iff {w : Worker} :
    w.isPending = true ↔ ∃ size, w.state = .pending size := by
  unfold isPending
  split
  · rename_i size pending
    simp [pending]
  · rename_i other
    simpa using other

theorem Worker.pendingSize_of_not_pending {w : Worker} (rests : w.isPending = false) :
    w.pendingSize = 0 := by
  unfold pendingSize
  split
  · rename_i size pending
    rw [Worker.isPending_iff.mpr ⟨size, pending⟩] at rests
    cases rests
  · rfl

theorem Worker.Agrees.pendingSize_pos {w : Worker} {slot : Option Operation}
    (agrees : w.Agrees slot) (pends : w.isPending = true) : 0 < w.pendingSize := by
  obtain ⟨size, pending⟩ := Worker.isPending_iff.mp pends
  obtain ⟨op, _, rfl, unfinished, _⟩ := agrees.slot_of_pending pending
  rw [Worker.pendingSize, pending]
  exact Nat.zero_lt_of_lt unfinished

theorem Worker.Agrees.waits {w : Worker} {slot : Option Operation} (agrees : w.Agrees slot) :
    slot = none ∨ w.isPending = true := by
  cases agrees with
  | idle => exact Or.inl rfl
  | pending pending => exact Or.inr (Worker.isPending_iff.mpr ⟨_, pending⟩)

/-- How many bytes a lane still has to send, those of an outstanding send counted
in full. -/
def Lane.toSend (lane : Lane) : Nat :=
  lane.queues.output.length + lane.worker.pendingSize

namespace Reader

variable {lane : Lane} {moved total : Nat} {answer : Except IoError Nat × Lane}

/-- Receiving stops with a receive outstanding, unless the input is full. -/
theorem Issues.stops (issues : Issues lane moved answer) (idle : lane.worker.state = .idle)
    (ok : answer.1 = .ok total) : answer.2.worker.isPending = true ↔ 0 < answer.2.queues.room := by
  induction issues with
  | full full => simp [Worker.isPending, idle, full]
  | next _ _ _ ih => exact ih idle ok
  | pending room =>
    simp only [Worker.isPending, Worker.await, true_iff]
    exact Nat.pos_of_ne_zero room
  | failed => cases ok

theorem Run.stops (run : Run lane answer) (ok : answer.1 = .ok total) :
    answer.2.worker.isPending = true ↔ 0 < answer.2.queues.room := by
  cases run with
  | idle idle _ issues => exact issues.stops idle ok
  | withdrawn _ _ issues => exact issues.stops rfl ok
  | pending _ some_room =>
    simp only [outstanding] at some_room
    simp only [Worker.isPending, Worker.await, true_iff]
    omega
  | complete _ _ _ issues => exact issues.stops rfl ok
  | failed => cases ok

end Reader

namespace Writer

variable {lane : Lane} {moved total : Nat} {answer : Except SendFailure Nat × Lane}

/-- Sending stops with a send outstanding, unless there is nothing left to
send. -/
theorem Issues.stops (issues : Issues lane moved answer) (ok : answer.1 = .ok total) :
    answer.2.worker.isPending = true ∨ answer.2.queues.output = [] := by
  induction issues with
  | done nothing => exact Or.inr nothing
  | next _ _ _ ih => exact ih ok
  | pending => exact Or.inl rfl
  | failed => cases ok

theorem Run.stops (run : Run lane answer) (ok : answer.1 = .ok total) :
    answer.2.worker.isPending = true ∨ answer.2.queues.output = [] := by
  cases run with
  | idle _ _ issues => exact issues.stops ok
  | pending => exact Or.inl rfl
  | complete _ _ issues => exact issues.stops ok
  | failed => cases ok

/-- Each byte of the output is then counted as sent, belongs to the outstanding
send, or waits for the next one. -/
theorem Issues.counts (issues : Issues lane moved answer) (idle : lane.worker.state = .idle)
    (ok : answer.1 = .ok total) :
    moved + lane.queues.output.length = total + answer.2.toSend := by
  induction issues with
  | done =>
    cases ok
    simp [Lane.toSend, Worker.pendingSize, idle]
  | next next _ _ ih =>
    have rest := ih idle ok
    rw [next.split, List.length_append, ← Nat.add_assoc]
    exact rest
  | pending next =>
    cases ok
    rw [next.split, List.length_append]
    simp only [Lane.toSend, Worker.pendingSize, Worker.await]
    omega
  | failed => cases ok

theorem Run.counts (run : Run lane answer) (ok : answer.1 = .ok total) :
    lane.toSend = total + answer.2.toSend := by
  have pending_eq {op : Operation} (holds : Holds lane op) :
      lane.toSend = op.length + lane.queues.output.length := by
    rw [Lane.toSend, Worker.pendingSize, holds.state, Nat.add_comm]
  cases run with
  | idle idle _ issues =>
    have counted := issues.counts idle ok
    rw [Nat.zero_add] at counted
    rw [← counted, Lane.toSend, Worker.pendingSize, idle, Nat.add_zero]
  | pending holds =>
    cases ok
    rw [pending_eq holds, Nat.zero_add, Nat.add_comm]
    rfl
  | complete holds _ issues =>
    rw [pending_eq holds]
    exact issues.counts rfl ok
  | failed => cases ok

end Writer

namespace Connection

/-- How many bytes a connection still has to send, those of an outstanding send
counted in full. -/
def toSend (c : Connection) (q : Queues) : Nat :=
  q.output.length + (c.writer.map Worker.pendingSize).getD 0

variable {c : Connection} {q : Queues} {h : Host} {r w : Nat}

theorem receiveHalf_counts (sound : c.Sound) (ok : (c.receiveHalf q h).read = .ok r) :
    (c.receiveHalf q h).queues.input.length = q.input.length + r := by
  unfold receiveHalf at ok ⊢
  split at ok
  · rename_i worker present
    have advance := Reader.advance_spec ⟨worker, q, c.transport, h⟩ (sound.reader worker present)
    obtain ⟨data, queues, _, count⟩ := advance.queues
    rw [count r ok, Nat.zero_add, ← List.length_append]
    exact congrArg (fun queues => queues.input.length) queues
  · cases ok
    rfl

theorem receiveHalf_pending (sound : c.Sound) (ok : (c.receiveHalf q h).read = .ok r)
    (worker : Worker) (present : (c.receiveHalf q h).connection.reader = some worker) :
    worker.isPending = true ↔ 0 < (c.receiveHalf q h).queues.room := by
  unfold receiveHalf at ok present ⊢
  split at ok
  · rename_i before reads
    simp only [reads, Option.some.injEq] at present
    rw [← present]
    exact (Reader.advance_run _ (sound.reader before reads)).stops ok
  · rename_i missing
    simp [missing] at present

theorem sendHalf_counts (sends : ∀ w, c.writer = some w → w.Sends c.transport.sending)
    (ok : (c.sendHalf q h).written = .ok w) :
    c.toSend q = w + (c.sendHalf q h).connection.toSend (c.sendHalf q h).queues := by
  unfold sendHalf at ok ⊢
  split at ok
  · rename_i worker present
    have counted := (Writer.advance_run _ (sends worker present)).counts ok
    simpa [toSend, present, Lane.toSend] using counted
  · rename_i missing
    cases ok
    rw [Nat.zero_add]

theorem sendHalf_pending (sends : ∀ w, c.writer = some w → w.Sends c.transport.sending)
    (ok : (c.sendHalf q h).written = .ok w) (worker : Worker)
    (present : (c.sendHalf q h).connection.writer = some worker) :
    worker.isPending = true ↔
      0 < (c.sendHalf q h).connection.toSend (c.sendHalf q h).queues := by
  unfold sendHalf at ok present ⊢
  split at ok
  · rename_i before writes
    have advance := Writer.advance_spec ⟨before, q, c.transport, h⟩ (sends before writes)
    have stops := (Writer.advance_run _ (sends before writes)).stops ok
    have agrees := (advance.agrees w ok).agrees
    simp only [writes, Option.some.injEq] at present
    subst present
    simp only [toSend, Option.map_some, Option.getD_some]
    constructor
    · intro pends
      exact Nat.add_pos_right _ (agrees.pendingSize_pos pends)
    · intro some_left
      rcases stops with pends | empty
      · exact pends
      · refine Decidable.byContradiction fun rests => ?_
        rw [empty, Worker.pendingSize_of_not_pending (by simpa using rests)] at some_left
        cases some_left
  · rename_i missing
    simp [missing] at present

/-- What a tick in which nothing failed has counted, and what it leaves
outstanding: a receive while there is room, and a send while there is something
to send. -/
structure Rested (c : Connection) (q : Queues) (t : Tick) (r w : Nat) : Prop where
  received : t.queues.input.length = q.input.length + r
  sent : c.toSend q = w + t.connection.toSend t.queues
  reading : ∀ worker, t.connection.reader = some worker →
    (worker.isPending = true ↔ 0 < t.queues.room)
  writing : ∀ worker, t.connection.writer = some worker →
    (worker.isPending = true ↔ 0 < t.connection.toSend t.queues)

theorem rested (sound : c.Sound) (read : (c.tick q h).read = .ok r)
    (written : (c.tick q h).written = .ok w) : c.Rested q (c.tick q h) r w := by
  rw [tick_eq] at read written ⊢
  dsimp only at read written ⊢
  obtain ⟨queues, _, writer, _⟩ := receiveHalf_frame (q := q) (h := h) sound
  have counted := receiveHalf_counts sound read
  have reading := receiveHalf_pending sound read
  obtain ⟨sends, _⟩ := sends_receiveHalf (q := q) (h := h) sound
  generalize c.receiveHalf q h = first at *
  obtain ⟨queues', _, reader', _⟩ := sendHalf_frame (q := first.queues) (h := first.host) sends
  have counted' := sendHalf_counts sends written
  have writing := sendHalf_pending sends written
  generalize first.connection.sendHalf first.queues first.host = second at *
  have room : second.queues.room = first.queues.room := by rw [queues', Queues.room, Queues.room]
  refine ⟨by rw [queues', counted], ?_, fun worker present => ?_, writing⟩
  · rw [← counted', toSend, toSend, writer, queues]
  · rw [reader'] at present
    rw [room]
    exact reading worker present

end Connection

namespace Endpoint

/-- What an endpoint has to wait for: its peer's bytes while there is room for
them, and the host's while there is something to send. -/
def due (ep : Endpoint) : List WaitHandle :=
  match ep.connection with
  | none => []
  | some c =>
    (if c.reader.isSome ∧ ep.bytesAvailable < ep.readBufferSize then
      [⟨c.transport.descriptor, .readable⟩] else []) ++
    (if c.writer.isSome ∧ 0 < ep.bytesToSend then
      [⟨c.transport.descriptor, .writable⟩] else [])

theorem due_of_closed {ep : Endpoint} (closed : ep.connection = none) : ep.due = [] := by
  rw [due, closed]

theorem bytesToSend_of_connected {ep : Endpoint} {c : Connection}
    (connected : ep.connection = some c) : ep.bytesToSend = c.toSend ep.queues := by
  rw [bytesToSend, connected]
  rfl

/-- What an endpoint has due is due to its connection: to receive, with room for more, or
to send, with something left. -/
theorem due_cases {ep : Endpoint} {c : Connection} (connected : ep.connection = some c)
    {handle : WaitHandle} (due : handle ∈ ep.due) :
    (handle = ⟨c.transport.descriptor, .readable⟩ ∧ c.reader.isSome = true ∧
      0 < ep.queues.room) ∨
    (handle = ⟨c.transport.descriptor, .writable⟩ ∧ c.writer.isSome = true ∧
      0 < c.toSend ep.queues) := by
  rw [Endpoint.due, connected] at due
  rcases List.mem_append.mp due with waits | waits
  · split at waits
    · rename_i able
      exact Or.inl ⟨List.mem_singleton.mp waits, able.1, Nat.sub_pos_of_lt able.2⟩
    · cases waits
  · split at waits
    · rename_i able
      rw [bytesToSend_of_connected connected] at able
      exact Or.inr ⟨List.mem_singleton.mp waits, able⟩
    · cases waits

/-- An open endpoint that may send and has nothing due has sent everything. -/
theorem bytesToSend_of_due {ep : Endpoint}
    (writes : ∀ c, ep.connection = some c → c.writer.isSome = true) (opened : ep.isClosed = false)
    (nothing : ep.due = []) : ep.bytesToSend = 0 := by
  obtain ⟨c, connected⟩ : ∃ c, ep.connection = some c := by
    simpa [isClosed, Option.isSome_iff_exists] using opened
  rw [due, connected] at nothing
  simpa [writes c connected] using (List.append_eq_nil_iff.mp nothing).2

/-- An open endpoint that may receive and has nothing due is full. -/
theorem readBufferSize_of_due {ep : Endpoint}
    (reads : ∀ c, ep.connection = some c → c.reader.isSome = true) (opened : ep.isClosed = false)
    (nothing : ep.due = []) : ep.readBufferSize ≤ ep.bytesAvailable := by
  obtain ⟨c, connected⟩ : ∃ c, ep.connection = some c := by
    simpa [isClosed, Option.isSome_iff_exists] using opened
  rw [due, connected] at nothing
  simpa [reads c connected] using (List.append_eq_nil_iff.mp nothing).1

theorem bytesToSend_ticked (ep : Endpoint) (t : Connection.Tick) :
    (ep.ticked t).bytesToSend = t.connection.toSend t.queues :=
  rfl

variable {ep ep' : Endpoint} {h h' : Host} {waits waits' : WaitSet} {moved : Bool}

/-- The handles of what a tick leaves outstanding are those that are due. -/
theorem waitHandles_eq_due (ep : Endpoint) {c : Connection} {q : Queues} {t : Connection.Tick}
    {r w : Nat} (rested : c.Rested q t r w) : t.connection.waitHandles = (ep.ticked t).due := by
  have reading : (t.connection.reader.bind (·.waitHandle? .read t.connection.transport)).toList =
      if t.connection.reader.isSome ∧
          (ep.ticked t).bytesAvailable < (ep.ticked t).readBufferSize then
        [⟨t.connection.transport.descriptor, .readable⟩] else [] := by
    cases present : t.connection.reader with
    | none => rfl
    | some worker =>
      have roomy : 0 < t.queues.room ↔
          (ep.ticked t).bytesAvailable < (ep.ticked t).readBufferSize := Nat.sub_pos_iff_lt
      by_cases pends : worker.isPending = true
      · have waits := roomy.mp ((rested.reading worker present).mp pends)
        simp [Worker.waitHandle?, pends, waits, Transport.waitHandle, Direction.interest]
      · have rests := mt roomy.mpr (mt (rested.reading worker present).mpr pends)
        simp [Worker.waitHandle?, pends, rests]
  have writing : (t.connection.writer.bind (·.waitHandle? .write t.connection.transport)).toList =
      if t.connection.writer.isSome ∧ 0 < (ep.ticked t).bytesToSend then
        [⟨t.connection.transport.descriptor, .writable⟩] else [] := by
    rw [bytesToSend_ticked]
    cases present : t.connection.writer with
    | none => rfl
    | some worker =>
      by_cases pends : worker.isPending = true
      · have waits := (rested.writing worker present).mp pends
        simp [Worker.waitHandle?, pends, waits, Transport.waitHandle, Direction.interest]
      · have rests := mt (rested.writing worker present).mpr pends
        simp [Worker.waitHandle?, pends, rests]
  rw [Connection.waitHandles, reading, writing]
  rfl

/-- Service adds to the wait set just what is due then. An endpoint that a failure
has closed adds nothing. -/
theorem service_due (sound : ∀ c, ep.connection = some c → c.Sound)
    (run : ep.service waits h = .ok (moved, waits', ep') h') :
    waits'.handles = waits.handles ++ ep'.due := by
  cases connected : ep.connection with
  | none =>
    rw [service_closed waits connected] at run
    cases run
    rw [due_of_closed connected, List.append_nil]
  | some c =>
    have served := served_of_run connected (sound c connected) run
    cases served with
    | kept read written =>
      have rested := Connection.rested (sound c connected) read written
      rw [WaitSet.extend, waitHandles_eq_due ep rested]
    | failed errors _ =>
      rw [due_of_closed (by rw [giveUp_fst]), List.append_nil]

/-- A service that reports no movement has received nothing, has finished no send,
and has closed nothing. -/
structure Unmoved (ep ep' : Endpoint) : Prop where
  input : ep'.queues.input = ep.queues.input
  readCapacity : ep'.queues.readCapacity = ep.queues.readCapacity
  bytesToSend : ep'.bytesToSend = ep.bytesToSend
  isClosed : ep'.isClosed = ep.isClosed

theorem Unmoved.refl (ep : Endpoint) : ep.Unmoved ep :=
  ⟨rfl, rfl, rfl, rfl⟩

theorem service_unmoved (sound : ∀ c, ep.connection = some c → c.Sound)
    (run : ep.service waits h = .ok (false, waits', ep') h') : ep.Unmoved ep' := by
  cases connected : ep.connection with
  | none =>
    rw [service_closed waits connected] at run
    cases run
    exact ⟨rfl, rfl, rfl, rfl⟩
  | some c =>
    have ticked := c.ticked (q := ep.queues) (h := h) (sound c connected)
    have served := served_of_run connected (sound c connected) run
    generalize moves : (false, waits', ep') = outcome at served
    cases served with
    | @kept r w read written =>
      simp only [Prod.mk.injEq, Bool.false_eq, Bool.or_eq_false_iff,
        decide_eq_false_iff_not] at moves
      obtain ⟨⟨none_received, none_sent⟩, _, rfl⟩ := moves
      have rested := Connection.rested (sound c connected) read written
      obtain ⟨mid, received, _⟩ := ticked.halves
      obtain ⟨data, input, _⟩ := received.input
      have counted := rested.received
      rw [input, List.length_append] at counted
      have nothing : data = [] := List.eq_nil_of_length_eq_zero (by omega)
      refine ⟨?_, ticked.readCapacity, ?_, by simp [isClosed, Endpoint.ticked, connected]⟩
      · rw [nothing, List.append_nil] at input
        exact input
      · have before : ep.bytesToSend = c.toSend ep.queues := by
          rw [bytesToSend, connected]
          rfl
        have sent := rested.sent
        rw [bytesToSend_ticked, before]
        omega
    | failed errors _ => cases moves

/-- Service keeps the workers of an endpoint that it keeps connected, and how much
the endpoint takes in. -/
structure Equipped (ep ep' : Endpoint) : Prop where
  readCapacity : ep'.queues.readCapacity = ep.queues.readCapacity
  workers : ∀ c', ep'.connection = some c' → ∃ c, ep.connection = some c ∧
    c'.reader.isSome = c.reader.isSome ∧ c'.writer.isSome = c.writer.isSome

theorem service_equipped (sound : ∀ c, ep.connection = some c → c.Sound)
    (run : ep.service waits h = .ok (moved, waits', ep') h') : ep.Equipped ep' := by
  cases connected : ep.connection with
  | none =>
    rw [service_closed waits connected] at run
    cases run
    exact ⟨rfl, fun c' present => ⟨c', present, rfl, rfl⟩⟩
  | some c =>
    have ticked := c.ticked (q := ep.queues) (h := h) (sound c connected)
    have served := served_of_run connected (sound c connected) run
    cases served with
    | kept =>
      refine ⟨ticked.readCapacity, fun c' present => ?_⟩
      cases present
      exact ⟨c, connected, ticked.reader, ticked.writer⟩
    | failed errors _ =>
      rw [giveUp_fst]
      exact ⟨ticked.readCapacity, fun c' present => by cases present⟩

end Endpoint

end LocalPipe
