import LocalPipe.Proofs.MeasuredReads
import LocalPipe.Proofs.Quiescence

namespace LocalPipe

open Host

/-- Whether a call is a write. -/
def Call.isWrite : Call → Bool
  | .write _ _ _ => true
  | _ => false

/-- Whether a call is a read that was not interrupted. -/
def Call.isWholeRead : Call → Bool
  | .read _ _ (.error .eintr) => false
  | .read _ _ _ => true
  | _ => false

/-- Whether a call is a write that was not interrupted. -/
def Call.isWholeWrite : Call → Bool
  | .write _ _ (.error .eintr) => false
  | .write _ _ _ => true
  | _ => false

/-- How many reads were not interrupted. -/
def wholeReads (calls : List Call) : Nat :=
  calls.countP Call.isWholeRead

/-- How many writes were not interrupted. -/
def wholeWrites (calls : List Call) : Nat :=
  calls.countP Call.isWholeWrite

section

variable {d : Descriptor} {n : Nat} {data left : Bytes} {h h' : Host} {counts : Call → Bool}

theorem Host.Reads.countP_eq (reads : h.Reads d h')
    (others : ∀ n result, counts (.read d n result) = false) :
    h'.calls.countP counts = h.calls.countP counts := by
  induction reads with
  | start => rfl
  | read n _ ih => rw [calls_read, List.countP_cons, others, ih]; rfl
  | log event _ ih => exact ih

theorem Host.Writes.countP_eq (writes : h.Writes d h')
    (others : ∀ data result, counts (.write d data result) = false) :
    h'.calls.countP counts = h.calls.countP counts := by
  induction writes with
  | start => rfl
  | write data _ ih => rw [calls_write, List.countP_cons, others, ih]; rfl
  | log event _ ih => exact ih

theorem Host.Quiet.countP_eq (quiet : h.Quiet h')
    (others : ∀ call, call.isTransfer = false → counts call = false) :
    h'.calls.countP counts = h.calls.countP counts := by
  obtain ⟨later, calls, still⟩ := quiet
  have none_counts : later.countP counts = 0 :=
    List.countP_eq_zero.mpr fun call member => by rw [others call (still call member)]; simp
  rw [calls, List.countP_append, none_counts, Nat.zero_add]

theorem wholeReads_of_read {result : Except Errno Bytes} (answer : h.read d n = (result, h')) :
    wholeReads h'.calls =
      wholeReads h.calls + (Call.isWholeRead (.read d n result)).toNat := by
  have calls := h.calls_read d n
  rw [answer] at calls
  rw [calls, wholeReads, wholeReads, List.countP_cons]
  cases Call.isWholeRead (.read d n result) <;> rfl

theorem wholeWrites_of_write {result : Except Errno Nat}
    (answer : h.write d data = (result, h')) :
    wholeWrites h'.calls =
      wholeWrites h.calls + (Call.isWholeWrite (.write d data result)).toNat := by
  have calls := h.calls_write d data
  rw [answer] at calls
  rw [calls, wholeWrites, wholeWrites, List.countP_cons]
  cases Call.isWholeWrite (.write d data result) <;> rfl

/-- A receive ends with its first read that is not interrupted. -/
theorem wholeReads_receive (d : Descriptor) (n : Nat) (h : Host) :
    wholeReads (receive d n h).2.calls = wholeReads h.calls + 1 := by
  fun_induction receive d n h with
  | case1 h h' answer => exact wholeReads_of_read answer
  | case2 h data h' _ answer => exact wholeReads_of_read answer
  | case3 h h' answer => exact wholeReads_of_read answer
  | case4 h h' answer ih =>
    rw [ih, wholeReads_of_read answer]
    rfl
  | case5 h e h' _ uninterrupted answer =>
    rw [wholeReads_of_read answer]
    cases e with
    | eintr => exact absurd rfl uninterrupted
    | _ => rfl

/-- A transmission makes no more writes than it has bytes, since each but the last
places one at least. -/
theorem wholeWrites_transmit_le (d : Descriptor) (data : Bytes) (h : Host) :
    wholeWrites (transmit d data h).2.2.calls ≤ wholeWrites h.calls + data.length := by
  have last {h h' : Host} {data : Bytes} {result : Except Errno Nat} (some_left : data ≠ [])
      (answer : h.write d data = (result, h')) :
      wholeWrites h'.calls ≤ wholeWrites h.calls + data.length := by
    have := List.length_pos_iff.mpr some_left
    have := Bool.toNat_le (Call.isWholeWrite (.write d data result))
    rw [wholeWrites_of_write answer]
    omega
  fun_induction transmit d data h with
  | case1 => exact Nat.le_add_right _ _
  | case2 data h some_left h' answer => exact last some_left answer
  | case3 data h some_left n h' answer ih =>
    have := List.length_pos_iff.mpr some_left
    have one : (Call.isWholeWrite (.write d data (.ok (n + 1)))).toNat = 1 := rfl
    rw [wholeWrites_of_write answer, one, List.length_drop] at ih
    omega
  | case4 data h some_left h' answer => exact last some_left answer
  | case5 data h _ h' answer ih =>
    rw [wholeWrites_of_write answer] at ih
    exact ih
  | case6 data h some_left e h' _ _ answer => exact last some_left answer

theorem wholeReads_of_receive {outcome : Outcome Bytes} (answer : receive d n h = (outcome, h')) :
    wholeReads h'.calls = wholeReads h.calls + 1 := by
  have made := wholeReads_receive d n h
  rwa [answer] at made

theorem wholeWrites_of_transmit {outcome : Outcome Unit}
    (answer : transmit d data h = (outcome, left, h')) :
    wholeWrites h'.calls ≤ wholeWrites h.calls + data.length := by
  have made := wholeWrites_transmit_le d data h
  rwa [answer] at made

end

namespace Reader

variable {lane : Lane} {moved : Nat} {answer : Except IoError Nat × Lane}

/-- A receive that is complete takes up some of the room. -/
theorem room_complete_lt {q : Queues} {data : Bytes} (room : q.room ≠ 0) (some_data : data ≠ []) :
    (complete q data).room < q.room := by
  have := List.length_pos_iff.mpr some_data
  simp only [Queues.room, complete, List.length_append] at *
  omega

theorem data_of_receive {d : Descriptor} {n : Nat} {h h' : Host} {data : Bytes}
    (answer : receive d n h = (.complete data, h')) : data ≠ [] :=
  receive_complete (by rw [answer])

/-- Each read of a lane that fills its input but the last takes up some of the room. -/
theorem Issues.wholeReads_le (issues : Issues lane moved answer) :
    wholeReads answer.2.host.calls ≤ wholeReads lane.host.calls + lane.queues.room := by
  induction issues with
  | full => exact Nat.le_add_right _ _
  | next room received _ ih =>
    have := room_complete_lt room (data_of_receive received)
    have := wholeReads_of_receive received
    dsimp only at ih
    omega
  | pending room received | failed room received =>
    have := wholeReads_of_receive received
    dsimp only
    omega

/-- With the input full, nothing is read. -/
theorem Issues.host_of_full (issues : Issues lane moved answer) (full : lane.queues.room = 0) :
    answer.2.host = lane.host := by
  cases issues with
  | full => rfl
  | next room | pending room | failed room => exact absurd full room

/-- An outstanding receive goes on only while there is room. -/
theorem room_of_outstanding {q : Queues} {size : Nat} (goes_on : outstanding q size ≠ 0) :
    q.room ≠ 0 := by
  rw [outstanding] at goes_on
  omega

theorem Run.wholeReads_le (run : Run lane answer) :
    wholeReads answer.2.host.calls ≤ wholeReads lane.host.calls + lane.queues.room := by
  cases run with
  | idle _ _ issues => exact issues.wholeReads_le
  | withdrawn _ _ issues => exact issues.wholeReads_le
  | pending _ goes_on received | failed _ goes_on received =>
    have := room_of_outstanding goes_on
    have := wholeReads_of_receive received
    dsimp only
    omega
  | complete _ goes_on received issues =>
    have := room_complete_lt (room_of_outstanding goes_on) (data_of_receive received)
    have := wholeReads_of_receive received
    have := issues.wholeReads_le
    dsimp only at this
    omega

theorem Run.calls_of_full (run : Run lane answer) (full : lane.queues.room = 0) :
    answer.2.host.calls = lane.host.calls := by
  cases run with
  | idle _ _ issues => rw [issues.host_of_full full]
  | withdrawn _ _ issues =>
    rw [issues.host_of_full full]
    rfl
  | pending _ goes_on | complete _ goes_on | failed _ goes_on =>
    exact absurd full (room_of_outstanding goes_on)

end Reader

namespace Writer

variable {lane : Lane} {moved : Nat} {answer : Except SendFailure Nat × Lane}

/-- Chunk after chunk, a lane makes no more writes than its output has bytes. -/
theorem Issues.wholeWrites_le (issues : Issues lane moved answer) :
    wholeWrites answer.2.host.calls ≤
      wholeWrites lane.host.calls + lane.queues.output.length := by
  induction issues with
  | done => exact Nat.le_add_right _ _
  | next next transmitted _ ih =>
    have := wholeWrites_of_transmit transmitted
    rw [next.split, List.length_append]
    dsimp only at ih
    omega
  | pending next transmitted | failed next transmitted =>
    have := wholeWrites_of_transmit transmitted
    rw [next.split, List.length_append]
    dsimp only
    omega

theorem Run.wholeWrites_le (run : Run lane answer) :
    wholeWrites answer.2.host.calls ≤ wholeWrites lane.host.calls + lane.unsent.length := by
  cases run with
  | idle _ free issues =>
    rw [unsent_of_free free]
    exact issues.wholeWrites_le
  | pending holds transmitted | failed holds transmitted =>
    have := wholeWrites_of_transmit transmitted
    rw [holds.unsent, List.length_append]
    dsimp only
    omega
  | complete holds transmitted issues =>
    have := wholeWrites_of_transmit transmitted
    have := issues.wholeWrites_le
    rw [holds.unsent, List.length_append]
    dsimp only at this
    omega

/-- What is outstanding of a send has some bytes left. -/
theorem Holds.unsent_ne_nil {op : Operation} (holds : Holds lane op) : lane.unsent ≠ [] := by
  have := holds.unfinished
  have := holds.whole
  rw [← List.length_pos_iff, holds.unsent, List.length_append, List.length_drop]
  omega

/-- With nothing to send, nothing is written. -/
theorem Run.host_of_nothing (run : Run lane answer) (nothing : lane.unsent = []) :
    answer.2.host = lane.host := by
  cases run with
  | idle _ free issues =>
    rw [unsent_of_free free] at nothing
    cases issues with
    | done => rfl
    | next next | pending next | failed next =>
      rw [next.split] at nothing
      exact absurd (List.append_eq_nil_iff.mp nothing).1 next.nonempty
  | pending holds | complete holds | failed holds => exact absurd nothing holds.unsent_ne_nil

end Writer

namespace Host

/-- No more calls are made in between than some room and some bytes to send allow. -/
structure Spends (h : Host) (room unsent : Nat) (h' : Host) : Prop where
  suffix : h.calls <:+ h'.calls
  reads : wholeReads h'.calls ≤ wholeReads h.calls + room
  writes : wholeWrites h'.calls ≤ wholeWrites h.calls + unsent
  unread : room = 0 → h'.calls.countP Call.isRead = h.calls.countP Call.isRead
  unwritten : unsent = 0 → h'.calls.countP Call.isWrite = h.calls.countP Call.isWrite

/-- What moves nothing may follow. -/
theorem Spends.quiet {h mid h' : Host} {room unsent : Nat} (spends : h.Spends room unsent mid)
    (quiet : mid.Quiet h') : h.Spends room unsent h' := by
  have reads : wholeReads h'.calls = wholeReads mid.calls :=
    quiet.countP_eq fun call still => by
      cases call <;> simp_all [Call.isTransfer, Call.isWholeRead]
  have writes : wholeWrites h'.calls = wholeWrites mid.calls :=
    quiet.countP_eq fun call still => by
      cases call <;> simp_all [Call.isTransfer, Call.isWholeWrite]
  have read : h'.calls.countP Call.isRead = mid.calls.countP Call.isRead :=
    quiet.countP_eq fun call still => by cases call <;> simp_all [Call.isTransfer, Call.isRead]
  have written : h'.calls.countP Call.isWrite = mid.calls.countP Call.isWrite :=
    quiet.countP_eq fun call still => by cases call <;> simp_all [Call.isTransfer, Call.isWrite]
  exact ⟨spends.suffix.trans quiet.calls_suffix, by rw [reads]; exact spends.reads,
    by rw [writes]; exact spends.writes,
    fun full => read.trans (spends.unread full),
    fun nothing => written.trans (spends.unwritten nothing)⟩

end Host

namespace Connection

variable {c : Connection} {q : Queues} {h : Host}

theorem receiveHalf_spends (sound : c.Sound) :
    wholeReads (c.receiveHalf q h).host.calls ≤ wholeReads h.calls + q.room ∧
      (q.room = 0 → (c.receiveHalf q h).host.calls = h.calls) := by
  unfold receiveHalf
  split
  · rename_i w present
    have run := Reader.advance_run ⟨w, q, c.transport, h⟩ (sound.reader w present)
    exact ⟨run.wholeReads_le, run.calls_of_full⟩
  · exact ⟨Nat.le_add_right _ _, fun _ => rfl⟩

theorem sendHalf_spends (sends : ∀ w, c.writer = some w → w.Sends c.transport.sending) :
    wholeWrites (c.sendHalf q h).host.calls ≤ wholeWrites h.calls + (c.unsent q).length ∧
      (c.unsent q = [] → (c.sendHalf q h).host = h) := by
  unfold sendHalf
  split
  · rename_i w present
    have run := Writer.advance_run ⟨w, q, c.transport, h⟩ (sends w present)
    have unsent : c.unsent q = Lane.unsent ⟨w, q, c.transport, h⟩ := by
      rw [Connection.unsent, Connection.unaccepted, present]
      rfl
    rw [unsent]
    exact ⟨run.wholeWrites_le, run.host_of_nothing⟩
  · exact ⟨Nat.le_add_right _ _, fun _ => rfl⟩

/-- A tick spends no more than what it begins with allows. -/
theorem tick_spends (sound : c.Sound) :
    h.Spends q.room (c.unsent q).length (c.tick q h).host := by
  obtain ⟨readsLe, unread⟩ := receiveHalf_spends (q := q) (h := h) sound
  obtain ⟨queues, transport, writer, _⟩ := receiveHalf_frame (q := q) (h := h) sound
  obtain ⟨sends, _⟩ := sends_receiveHalf (q := q) (h := h) sound
  have received := (received_receiveHalf (q := q) (h := h) sound).reads
  rw [tick_eq]
  dsimp only
  generalize c.receiveHalf q h = first at *
  have unsent : first.connection.unsent first.queues = c.unsent q := by
    rw [Connection.unsent, Connection.unsent, unaccepted, unaccepted, writer, transport, queues]
  obtain ⟨writesLe, unwritten⟩ :=
    sendHalf_spends (q := first.queues) (h := first.host) sends
  have sent := (sent_sendHalf (q := first.queues) (h := first.host) sends).writes
  rw [unsent] at writesLe unwritten
  refine ⟨received.calls_suffix.trans sent.calls_suffix, ?_, ?_, fun full => ?_,
    fun nothing => ?_⟩
  · have none_read : wholeReads _ = wholeReads first.host.calls := sent.countP_eq fun _ _ => rfl
    rw [none_read]
    exact readsLe
  · have none_written : wholeWrites first.host.calls = wholeWrites h.calls :=
      received.countP_eq fun _ _ => rfl
    rw [← none_written]
    exact writesLe
  · rw [sent.countP_eq fun _ _ => rfl, unread full]
  · rw [unwritten (List.length_eq_zero_iff.mp nothing), received.countP_eq fun _ _ => rfl]

end Connection

/-- A service spends no more than its endpoint begins with allows, also if it closes the
endpoint. -/
theorem Endpoint.service_spends {ep ep' : Endpoint} {waits waits' : WaitSet} {moved : Bool}
    {h h' : Host} (sound : ∀ c, ep.connection = some c → c.Sound)
    (run : ep.service waits h = .ok (moved, waits', ep') h') :
    h.Spends ep.queues.room ep.unsent.length h' := by
  cases connected : ep.connection with
  | none =>
    rw [service_closed waits connected] at run
    cases run
    exact ⟨List.suffix_rfl, Nat.le_add_right _ _, Nat.le_add_right _ _, fun _ => rfl, fun _ => rfl⟩
  | some c =>
    have unsent : ep.unsent = c.unsent ep.queues := by
      rw [Endpoint.unsent, Endpoint.unaccepted, connected]
      rfl
    have ticked := c.tick_spends (q := ep.queues) (h := h) (sound c connected)
    rw [unsent]
    cases served_of_run connected (sound c connected) run with
    | kept => exact ticked
    | failed errors _ =>
      exact ticked.quiet ((ep.ticked (c.tick ep.queues h)).releases_giveUp errors _).quiet

/-- Some calls are no more than an endpoint can make use of. -/
structure Endpoint.Affords (ep : Endpoint) (later : List Call) : Prop where
  reads : wholeReads later ≤ ep.queues.room
  writes : wholeWrites later ≤ ep.unsent.length
  unread : ep.queues.room = 0 → ∀ call ∈ later, call.isRead = false
  unwritten : ep.unsent = [] → ∀ call ∈ later, call.isWrite = false

theorem Host.Spends.affords {ep : Endpoint} {h h' : Host}
    (spends : h.Spends ep.queues.room ep.unsent.length h') : ep.Affords (h'.since h.calls) := by
  obtain ⟨later, calls⟩ := spends.suffix
  have none_of_count {counts : Call → Bool}
      (same : h'.calls.countP counts = h.calls.countP counts) :
      ∀ call ∈ later, counts call = false := by
    rw [← calls, List.countP_append] at same
    have zero : later.countP counts = 0 := by omega
    simpa using List.countP_eq_zero.mp zero
  have reads := spends.reads
  have writes := spends.writes
  rw [← calls, wholeReads, wholeReads, List.countP_append] at reads
  rw [← calls, wholeWrites, wholeWrites, List.countP_append] at writes
  rw [since_eq calls.symm]
  refine ⟨?_, ?_, fun full => none_of_count (spends.unread full), fun nothing =>
    none_of_count (spends.unwritten (List.length_eq_zero_iff.mpr nothing))⟩
  · rw [wholeReads]
    omega
  · rw [wholeWrites]
    omega

/-- Whatever was done with an endpoint, of whatever buffers it was made and whatever its
host answers, service returns. Interruptions apart, it makes no more reads than there is
room for bytes, and no more writes than there are bytes still to be accepted. With no
room it does not read at all, and with nothing to send it does not write at all. -/
theorem EndpointReach.service_affords {config : PipeConfig} {ep : Endpoint}
    (reach : EndpointReach config ep) (waits : WaitSet) (h : Host) :
    ∃ moved waits' ep' h', ep.service waits h = .ok (moved, waits', ep') h' ∧
      h.calls <:+ h'.calls ∧ ep.Affords (h'.since h.calls) := by
  have sound := reach.orderly.sound
  obtain ⟨moved, waits', ep', h', run, _⟩ := ep.service_sound waits h sound
  have spends := Endpoint.service_spends sound run
  exact ⟨moved, waits', ep', h', run, spends.suffix, spends.affords⟩

/-- Transfers of one byte, asked for as transfers of none, use up what is affordable: two
reads bring in two bytes, after one that was interrupted, and two writes fill the link
before the third finds it full. -/
theorem EndpointReach.service_affords_exactly : ∃ ep h,
    EndpointReach (({ readBufferSize := 2 } : PipeConfig).withIoSize 0) ep ∧
      ep.queues.room = 2 ∧ ep.unsent.length = 3 ∧
      ∃ moved waits' ep' h', ep.service {} h = .ok (moved, waits', ep') h' ∧
        ep.Affords (h'.since h.calls) ∧ (h'.since h.calls).countP Call.isRead = 3 ∧
        wholeReads (h'.since h.calls) = 2 ∧ wholeWrites (h'.since h.calls) = 3 := by
  have served : Endpoint.servedCramped (({ readBufferSize := 2 } : PipeConfig).withIoSize 0)
      [.connect [115], .write [1, 2, 3]]
      (fun h => ((h.act (.send ⟨"peer", .b⟩ [7, 8])).2.act
        (.failTransfers ⟨"peer", .a⟩ .read [.error .eintr])).2)
      (fun ep h _ _ h' => (ep.queues.room, ep.unsent.length,
        (h'.since h.calls).countP Call.isRead, wholeReads (h'.since h.calls),
        wholeWrites (h'.since h.calls))) = some (2, 3, 3, 2, 3) := by
    decide +kernel
  obtain ⟨ep, h, moved, waits', ep', h', reach, run, shown⟩ := Endpoint.of_servedCramped served
  obtain ⟨_, _, _, _, run', _, affords⟩ := EndpointReach.service_affords reach {} h
  cases run.symm.trans run'
  simp only [Prod.mk.injEq] at shown
  obtain ⟨room, unsent, reads, whole, written⟩ := shown
  exact ⟨ep, h, reach, room, unsent, moved, waits', ep', h', run, affords, reads, whole, written⟩

end LocalPipe
