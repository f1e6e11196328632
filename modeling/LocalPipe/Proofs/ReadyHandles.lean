import LocalPipe.Proofs.CalmEnds
import LocalPipe.Proofs.Movements

namespace LocalPipe

open Host

namespace Link

variable {l : Link} {s : Side} {n : Nat} {data : Bytes}

theorem read_of_clear (clear : (l.endAt s).faults .read = []) (n : Nat) :
    l.read s n = l.receive s n := by
  rw [read, takeFault, clear]

theorem write_of_clear (clear : (l.endAt s).faults .write = []) (data : Bytes) :
    l.write s data = l.send s data := by
  rw [write, takeFault, clear]

/-- A receive that brings nothing in changes nothing. -/
theorem receive_of_nothing (nothing : answered (l.receive s n).1 = []) :
    (l.receive s n).2 = l := by
  unfold receive at nothing ⊢
  dsimp only at nothing ⊢
  by_cases none_asked : n = 0
  · rw [if_pos none_asked]
  · rw [if_neg none_asked] at nothing ⊢
    by_cases empty : (l.endAt s).buffer = []
    · rw [if_pos empty]
      split <;> rfl
    · rw [if_neg empty, answered, List.take_eq_nil_iff] at nothing
      exact absurd nothing (not_or.mpr ⟨none_asked, empty⟩)

/-- A send of which nothing is accepted changes nothing. -/
theorem send_of_nothing (nothing : acceptedOf data (l.send s data).1 = []) :
    (l.send s data).2 = l := by
  unfold send at nothing ⊢
  dsimp only at nothing ⊢
  by_cases none_asked : data = []
  · rw [if_pos none_asked]
  · rw [if_neg none_asked] at nothing ⊢
    have some_asked := List.length_pos_iff.mpr none_asked
    by_cases closed : (!(l.endAt s.other).isOpen) = true
    · rw [if_pos closed]
    · rw [if_neg closed] at nothing ⊢
      by_cases full : l.room s = 0
      · rw [if_pos full]
      · rw [if_neg full, acceptedOf, List.take_eq_nil_iff] at nothing
        rcases nothing with none_fits | none_given
        · omega
        · exact absurd none_given none_asked

/-- Only an end that is not readable makes a receive wait. -/
theorem readable_of_receive (blocked : (l.receive s n).1 = .error .eagain) :
    l.readable s = false := by
  unfold receive at blocked
  dsimp only at blocked
  split at blocked
  · cases blocked
  · split at blocked
    · rename_i empty
      split at blocked
      · rename_i opened
        simp [readable, empty, opened]
      · cases blocked
    · cases blocked

/-- Only an end that is not writable makes a send wait. -/
theorem writable_of_send (blocked : (l.send s data).1 = .error .eagain) :
    l.writable s = false := by
  unfold send at blocked
  dsimp only at blocked
  split at blocked
  · cases blocked
  · split at blocked
    · cases blocked
    · rename_i opened
      split at blocked
      · rename_i full
        have past : l.capacity ≤ (l.endAt s.other).buffer.length := Nat.le_of_sub_eq_zero full
        simpa [writable, past] using opened
      · cases blocked

end Link

namespace Host

/-- No faults are ahead of the reads and writes of any end. -/
def Faultless (h : Host) : Prop :=
  ∀ p d, h.faults p d = []

variable {d : Descriptor} {h h' mid : Host} {n : Nat} {data left : Bytes}

theorem Faultless.congr (faultless : h.Faultless) (same : h'.links = h.links) : h'.Faultless := by
  intro p d
  have ends : h'.linkEnd? p = h.linkEnd? p := linkEnd?_congr (by rw [same])
  rw [faults, ends]
  exact faultless p d

/-- It is enough to look at each link there is. -/
theorem Faultless.of_links
    (clear : ∀ name l, h.links.get? name = some l → ∀ s p, (l.endAt s).faults p = []) :
    h.Faultless := by
  intro q p
  cases present : h.links.get? q.link with
  | none => rw [faults, linkEnd?, present, Option.map_none]
  | some l =>
    rw [h.faults_eq q p present]
    exact clear q.link l present q.side p

/-- On a host without faults a read receives what there is. -/
theorem Faultless.read_eq {l : Link} (faultless : h.Faultless)
    (present : h.links.get? d.endId.link = some l) (n : Nat) :
    h.read d n = ((l.receive d.endId.side n).1,
      (h.setLink d.endId.link (l.receive d.endId.side n).2).record
        (.read d n (l.receive d.endId.side n).1)) := by
  have clear := faultless d.endId .read
  rw [h.faults_eq d.endId .read present] at clear
  rw [Host.read_eq present, l.read_of_clear clear]

theorem Faultless.write_eq {l : Link} (faultless : h.Faultless)
    (present : h.links.get? d.endId.link = some l) (data : Bytes) :
    h.write d data = ((l.send d.endId.side data).1,
      (h.setLink d.endId.link (l.send d.endId.side data).2).record
        (.write d data (l.send d.endId.side data).1)) := by
  have clear := faultless d.endId .write
  rw [h.faults_eq d.endId .write present] at clear
  rw [Host.write_eq present, l.write_of_clear clear]

/-- A read that then brings nothing in leaves all links alone. -/
theorem Faultless.links_read (faultless : h.Faultless) (nothing : answered (h.read d n).1 = []) :
    (h.read d n).2.links = h.links := by
  cases present : h.links.get? d.endId.link with
  | none => exact links_read_of_none n present
  | some l =>
    rw [faultless.read_eq present] at nothing ⊢
    dsimp only [record, setLink] at nothing ⊢
    rw [Link.receive_of_nothing nothing, Table.set_of_get? present]

theorem Faultless.links_write (faultless : h.Faultless)
    (nothing : acceptedOf data (h.write d data).1 = []) : (h.write d data).2.links = h.links := by
  cases present : h.links.get? d.endId.link with
  | none => exact links_write_of_none data present
  | some l =>
    rw [faultless.write_eq present] at nothing ⊢
    dsimp only [record, setLink] at nothing ⊢
    rw [Link.send_of_nothing nothing, Table.set_of_get? present]

/-- What has come in at the end, and had at the beginning, had come in between, too. -/
theorem inbound_between (early : h.calls <:+ mid.calls) (late : mid.calls <:+ h'.calls)
    (nothing : inbound d h'.calls = inbound d h.calls) :
    inbound d mid.calls = inbound d h.calls := by
  have before := inbound_mono d early
  have after := inbound_mono d late
  rw [nothing] at after
  exact after.eq_of_length_le before.length_le

theorem outbound_between (early : h.calls <:+ mid.calls) (late : mid.calls <:+ h'.calls)
    (nothing : outbound d h'.calls = outbound d h.calls) :
    outbound d mid.calls = outbound d h.calls := by
  have before := outbound_mono d early
  have after := outbound_mono d late
  rw [nothing] at after
  exact after.eq_of_length_le before.length_le

/-- So do reads in a row, if nothing comes in through any of them. -/
theorem Reads.links_of_nothing (reads : h.Reads d h') (faultless : h.Faultless)
    (nothing : inbound d h'.calls = inbound d h.calls) : h'.links = h.links := by
  induction reads with
  | start => rfl
  | @read mid n before ih =>
    have one : mid.Reads d (mid.read d n).2 := .read n .start
    have none_yet := inbound_between before.calls_suffix one.calls_suffix nothing
    have same := ih none_yet
    have last : inbound d (mid.read d n).2.calls =
        inbound d mid.calls ++ answered (mid.read d n).1 := inbound_read rfl
    rw [nothing, none_yet, List.self_eq_append_right] at last
    rw [(faultless.congr same).links_read last, same]
  | log event _ ih => exact ih nothing

theorem Writes.links_of_nothing (writes : h.Writes d h') (faultless : h.Faultless)
    (nothing : outbound d h'.calls = outbound d h.calls) : h'.links = h.links := by
  induction writes with
  | start => rfl
  | @write mid data before ih =>
    have one : mid.Writes d (mid.write d data).2 := .write data .start
    have none_yet := outbound_between before.calls_suffix one.calls_suffix nothing
    have same := ih none_yet
    have last : outbound d (mid.write d data).2.calls =
        outbound d mid.calls ++ acceptedOf data (mid.write d data).1 := outbound_write rfl
    rw [nothing, none_yet, List.self_eq_append_right] at last
    rw [(faultless.congr same).links_write last, same]
  | log event _ ih => exact ih nothing

/-- What a descriptor waits for has not come: a poll would not find it ready. -/
def Stuck (h : Host) (d : Descriptor) (interest : Interest) : Prop :=
  d ∈ h.descriptors → h.isReady (.handle ⟨d, interest⟩) = false

theorem stuck_of_unreadable {l : Link} (present : h.links.get? d.endId.link = some l)
    (blocked : l.readable d.endId.side = false) : h.Stuck d .readable := by
  intro opened
  simpa [isReady, opened, present] using blocked

theorem stuck_of_unwritable {l : Link} (present : h.links.get? d.endId.link = some l)
    (blocked : l.writable d.endId.side = false) : h.Stuck d .writable := by
  intro opened
  simpa [isReady, opened, present] using blocked

theorem isReady_congr {handle : WaitHandle} (links : h'.links = h.links)
    (descriptors : h'.descriptors = h.descriptors) :
    h'.isReady (.handle handle) = h.isReady (.handle handle) := by
  simp only [isReady, links, descriptors]

theorem Stuck.of_links {interest : Interest} (stuck : h'.Stuck d interest)
    (links : h'.links = h.links) (descriptors : h'.descriptors = h.descriptors) :
    h.Stuck d interest := by
  intro opened
  rw [← isReady_congr links descriptors]
  exact stuck (by rwa [descriptors])

/-- A wait that counts something ready ends when it is. -/
theorem await_ready {watched : List Watched} {until? : Option Nat}
    {appointments : List Appointment}
    (counted : await watched until? appointments h = (.ok (n + 1), h')) :
    ∃ w ∈ watched, h'.isReady w = true := by
  induction appointments generalizing h with
  | nil =>
    unfold await at counted
    split at counted
    · rename_i some_ready
      obtain ⟨_, rfl⟩ := Prod.mk.inj counted
      exact List.countP_pos_iff.mp some_ready
    · split at counted <;> simp at counted
  | cons a rest ih =>
    unfold await at counted
    split at counted
    · rename_i some_ready
      obtain ⟨_, rfl⟩ := Prod.mk.inj counted
      exact List.countP_pos_iff.mp some_ready
    · split at counted
      · split at counted
        · exact ih counted
        · simp at counted
      · exact ih counted

theorem waitOnce_ready {watched : List Watched} {until? : Option Nat}
    (counted : h.waitOnce watched until? = (.ok (n + 1), h')) :
    ∃ w ∈ watched, h'.isReady w = true := by
  rcases h.waitOnce_cases watched until? with
    ⟨_, waits⟩ | ⟨_, _, ⟨waits, _⟩ | ⟨_, _, interrupted⟩⟩
  · exact await_ready (waits.symm.trans counted)
  · exact await_ready (waits.symm.trans counted)
  · rw [interrupted] at counted
    cases counted

theorem poll_ready {watched : List Watched} {millis : Option Nat}
    (counted : h.poll watched millis = (.ok (n + 1), h')) :
    ∃ w ∈ watched, h'.isReady w = true := by
  unfold poll at counted
  generalize polled : h.pollOnce watched millis = outcome at counted
  obtain ⟨result, mid⟩ := outcome
  cases counted
  unfold pollOnce at polled
  split at polled
  · cases polled
  · split at polled
    · cases polled
    · obtain ⟨w, member, ready⟩ := waitOnce_ready polled
      exact ⟨w, member, ready⟩

theorem waitReady_ready {watched : List Watched} {timeout : Option Duration}
    (counted : h.waitReady watched timeout = (.ok (n + 1), h')) :
    ∃ w ∈ watched, h'.isReady w = true := by
  fun_induction waitReady h watched timeout with
  | case1 h mid answer ih => exact ih counted
  | case2 h result mid _ answer =>
    rw [counted] at answer
    exact poll_ready answer

theorem wait_ready {w : WaitSet} {timeout : Option Duration}
    (counted : w.wait timeout h = (.ok (n + 1), h')) :
    ∃ handle ∈ w.handles, h'.isReady (.handle handle) = true := by
  unfold WaitSet.wait at counted
  split at counted
  · split at counted <;> cases counted
  · split at counted
    · rename_i answer
      cases counted
      obtain ⟨watched, member, ready⟩ := waitReady_ready answer
      obtain ⟨handle, waits, rfl⟩ := List.mem_map.mp member
      exact ⟨handle, waits, ready⟩
    · cases counted

end Host

variable {d : Descriptor} {h h' : Host} {n : Nat} {data left : Bytes}

/-- On a host without faults a receive waits only where a poll would. -/
theorem stuck_of_receive (faultless : h.Faultless) (waits : receive d n h = (.pending, h')) :
    h.Stuck d .readable := by
  unfold receive at waits
  split at waits
  · cases waits
  · cases waits
  · rename_i mid answer
    cases present : h.links.get? d.endId.link with
    | none =>
      simp only [Host.read, present, Prod.mk.injEq, Except.error.injEq, reduceCtorEq,
        false_and] at answer
    | some l =>
      rw [faultless.read_eq present] at answer
      exact stuck_of_unreadable present (Link.readable_of_receive (congrArg Prod.fst answer))
  · rename_i mid answer
    have fewer := h.faults_read_lt d n (by rw [answer])
    rw [faultless] at fewer
    cases fewer
  · cases waits

/-- A transmission of which nothing is accepted waits only where a poll would, too. -/
theorem stuck_of_transmit (faultless : h.Faultless)
    (waits : transmit d data h = (.pending, left, h'))
    (nothing : outbound d h'.calls = outbound d h.calls) : h.Stuck d .writable := by
  unfold transmit at waits
  split at waits
  · cases waits
  · rename_i some_data
    split at waits
    · cases waits
    · -- some of its bytes were accepted
      rename_i n mid answer
      obtain ⟨more, _, grown⟩ := outbound_of_transmit waits
      rw [nothing, outbound_write answer, List.append_assoc, List.self_eq_append_right] at grown
      simp [some_data] at grown
    · rename_i mid answer
      cases present : h.links.get? d.endId.link with
      | none =>
        simp only [Host.write, present, Prod.mk.injEq, Except.error.injEq, reduceCtorEq,
          false_and] at answer
      | some l =>
        rw [faultless.write_eq present] at answer
        exact stuck_of_unwritable present (Link.writable_of_send (congrArg Prod.fst answer))
    · rename_i mid answer
      have fewer := h.faults_write_lt d data (by rw [answer])
      rw [faultless] at fewer
      cases fewer
    · cases waits

/-- An outstanding send has bytes that are still to be accepted. -/
theorem Worker.Sends.unaccepted_ne_nil {w : Worker} {slot : Option Operation} (sends : w.Sends slot)
    (pends : 0 < w.pendingSize) : w.unaccepted slot ≠ [] := by
  have whole := sends.chunk
  cases sends.agrees with
  | idle idle => simp [pendingSize, idle] at pends
  | pending pending unfinished _ _ =>
    simp only [pendingSize, pending] at whole
    rw [unaccepted, ne_eq, List.drop_eq_nil_iff, whole]
    omega

namespace Connection

variable {c : Connection} {q : Queues} {r w : Nat}

/-- Sending stops when nothing is left to send, or when a transmission waits. -/
theorem sendHalf_paused (sends : ∀ w, c.writer = some w → w.Sends c.transport.sending)
    (ok : (c.sendHalf q h).written = .ok w) :
    c.writer = none ∨ (c.sendHalf q h).connection.unsent (c.sendHalf q h).queues = [] ∨
      ∃ mid data left, h.Writes c.transport.descriptor mid ∧
        transmit c.transport.descriptor data mid = (.pending, left, (c.sendHalf q h).host) := by
  unfold sendHalf at ok ⊢
  split at ok
  · rename_i worker present
    have advance := Writer.advance_spec ⟨worker, q, c.transport, h⟩ (sends worker present)
    exact Or.inr (advance.paused w ok)
  · rename_i missing
    exact Or.inl missing

/-- A connection that has something to send has bytes that are still to be accepted. -/
theorem unsent_ne_nil (sound : c.Sound) (some_left : 0 < c.toSend q) : c.unsent q ≠ [] := by
  intro nothing
  obtain ⟨accepted, empty⟩ := List.append_eq_nil_iff.mp nothing
  rw [toSend, empty] at some_left
  cases writing : c.writer with
  | none => simp [writing] at some_left
  | some worker =>
    simp only [writing, Option.map_some, Option.getD_some, List.length_nil, Nat.zero_add]
      at some_left
    rw [unaccepted, writing] at accepted
    exact (sound.writer worker writing).unaccepted_ne_nil some_left accepted

/-- A tick that moved nothing, and did not fail: it has left all links alone, and what it
could have gone on with is not ready. -/
structure Stalls (c : Connection) (q : Queues) (h : Host) (t : Tick) : Prop where
  links : t.host.links = h.links
  reading : c.reader.isSome = true → 0 < q.room → h.Stuck c.transport.descriptor .readable
  writing : c.writer.isSome = true → 0 < c.toSend q → h.Stuck c.transport.descriptor .writable

theorem tick_stalls (sound : c.Sound) (faultless : h.Faultless)
    (read : (c.tick q h).read = .ok r) (written : (c.tick q h).written = .ok w)
    (none_in : inbound c.transport.descriptor (c.tick q h).host.calls =
      inbound c.transport.descriptor h.calls)
    (none_out : outbound c.transport.descriptor (c.tick q h).host.calls =
      outbound c.transport.descriptor h.calls) : c.Stalls q h (c.tick q h) := by
  rw [tick_eq] at read written none_in none_out ⊢
  dsimp only at read written none_in none_out ⊢
  obtain ⟨queues, transport, writer, _⟩ := receiveHalf_frame (q := q) (h := h) sound
  obtain ⟨sends, _⟩ := sends_receiveHalf (q := q) (h := h) sound
  have received := received_receiveHalf (q := q) (h := h) sound
  generalize c.receiveHalf q h = first at *
  have sent := sent_sendHalf (q := first.queues) (h := first.host) sends
  have paused := sendHalf_paused (q := first.queues) (h := first.host) sends written
  generalize first.connection.sendHalf first.queues first.host = second at *
  have descriptor : first.connection.transport.descriptor = c.transport.descriptor := by
    rw [transport]
  have unsent : first.connection.unsent first.queues = c.unsent q := by
    rw [Connection.unsent, Connection.unsent, unaccepted, unaccepted, writer, transport, queues]
  have writes := sent.writes
  rw [descriptor] at writes paused
  rw [writes.inbound_eq] at none_in
  rw [← received.reads.outbound_eq] at none_out
  have first_links := received.reads.links_of_nothing faultless none_in
  have clear := faultless.congr first_links
  have second_links := writes.links_of_nothing clear none_out
  refine ⟨second_links.trans first_links, fun reads room => ?_, fun writing some_left => ?_⟩
  · obtain ⟨data, input, grown⟩ := received.input
    rw [none_in, List.self_eq_append_right] at grown
    rw [grown, List.append_nil] at input
    rcases received.paused r read with missing | full | ⟨before, n, _, reads', waits⟩
    · simp [missing] at reads
    · rw [queues, Queues.room, input] at full
      exact absurd full (Nat.ne_of_gt room)
    · -- nothing came in before the receive that waits either
      have last := (Reads.of_receive waits).calls_suffix
      have links := reads'.links_of_nothing faultless
        (inbound_between reads'.calls_suffix last none_in)
      exact (stuck_of_receive (faultless.congr links) waits).of_links links
        (by rw [reads'.rest])
  · rcases paused with missing | nothing | ⟨before, data, left, writes', waits⟩
    · rw [writer] at missing
      simp [missing] at writing
    · obtain ⟨data, dropped, split, grown, kept⟩ := sent.output
      rw [descriptor, none_out, List.self_eq_append_right] at grown
      rw [nothing, grown, kept w written, unsent] at split
      exact absurd split (unsent_ne_nil sound some_left)
    · have last := (Writes.of_transmit waits).calls_suffix
      have none_yet := outbound_between writes'.calls_suffix last none_out
      have links := writes'.links_of_nothing clear none_yet
      have stuck := stuck_of_transmit (clear.congr links) waits (none_out.trans none_yet.symm)
      exact (stuck.of_links links (by rw [writes'.rest])).of_links first_links
        (by rw [received.reads.rest])

end Connection

namespace Endpoint

/-- A service does something: it moves bytes over the link, or closes the endpoint. -/
def Works (ep : Endpoint) (h : Host) (ep' : Endpoint) (h' : Host) : Prop :=
  ∃ c, ep.connection = some c ∧
    (inbound c.transport.descriptor (h'.since h.calls) ≠ [] ∨
      outbound c.transport.descriptor (h'.since h.calls) ≠ [] ∨ ep'.connection = none)

variable {ep ep' : Endpoint} {c : Connection} {waits waits' : WaitSet} {moved : Bool}

/-- A service without faults that does nothing, seen as a tick that moved nothing. -/
theorem stalls_of_idle (connected : ep.connection = some c) (sound : c.Sound)
    (faultless : h.Faultless) (run : ep.service waits h = .ok (moved, waits', ep') h')
    (idle : ¬ ep.Works h ep' h') :
    h' = (c.tick ep.queues h).host ∧ c.Stalls ep.queues h (c.tick ep.queues h) := by
  have nothing : inbound c.transport.descriptor (h'.since h.calls) = [] ∧
      outbound c.transport.descriptor (h'.since h.calls) = [] ∧ ep'.connection ≠ none := by
    simpa only [Works, connected, Option.some.injEq, exists_eq_left', not_or, ne_eq,
      Decidable.not_not] using idle
  obtain ⟨none_in, none_out, still⟩ := nothing
  have ticked := c.ticked (q := ep.queues) (h := h) sound
  obtain ⟨mid, received, sent⟩ := ticked.halves
  obtain ⟨during, calls⟩ := received.reads.calls_suffix.trans sent.writes.calls_suffix
  have served := served_of_run connected sound run
  generalize moves : (moved, waits', ep') = outcome at served
  cases served with
  | @kept r w read written =>
    rw [since_eq calls.symm] at none_in none_out
    refine ⟨rfl, Connection.tick_stalls sound faultless read written ?_ ?_⟩
    · rw [← calls, inbound_append, none_in, List.append_nil]
    · rw [← calls, outbound_append, none_out, List.append_nil]
  | failed errors _ =>
    cases moves
    rw [giveUp_fst] at still
    exact absurd rfl still

/-- A service does something if a handle is ready that the endpoint has waited for. -/
theorem service_works (sound : ∀ c, ep.connection = some c → c.Sound) (faultless : h.Faultless)
    {handle : WaitHandle} (due : handle ∈ ep.due) (opened : handle.descriptor ∈ h.descriptors)
    (ready : h.isReady (.handle handle) = true)
    (run : ep.service waits h = .ok (moved, waits', ep') h') : ep.Works h ep' h' := by
  cases connected : ep.connection with
  | none =>
    rw [due_of_closed connected] at due
    cases due
  | some c =>
    refine Classical.byContradiction fun idle => ?_
    obtain ⟨_, stalls⟩ := stalls_of_idle connected (sound c connected) faultless run idle
    have blocked : h.isReady (.handle handle) = false := by
      rcases due_cases connected due with ⟨rfl, reads, room⟩ | ⟨rfl, writes, some_left⟩
      · exact stalls.reading reads room opened
      · exact stalls.writing writes some_left opened
    rw [ready] at blocked
    cases blocked

/-- A service that does nothing reports no movement, and leaves all links and descriptors
as they are. -/
theorem service_idle (sound : ∀ c, ep.connection = some c → c.Sound) (faultless : h.Faultless)
    (run : ep.service waits h = .ok (moved, waits', ep') h') (idle : ¬ ep.Works h ep' h') :
    moved = false ∧ h'.links = h.links ∧ h'.descriptors = h.descriptors := by
  cases connected : ep.connection with
  | none =>
    rw [service_closed waits connected] at run
    cases run
    exact ⟨rfl, rfl, rfl⟩
  | some c =>
    have reports := service_reports connected (sound c connected) run
    obtain ⟨same, stalls⟩ := stalls_of_idle connected (sound c connected) faultless run idle
    refine ⟨?_, by rw [same, stalls.links], ?_⟩
    · rw [← Bool.not_eq_true]
      intro moves
      refine idle ⟨c, connected, (reports.truthful_iff.mpr ?_).mp moves⟩
      rintro ⟨_, placed, _, _⟩
      exact idle ⟨c, connected, Or.inr (Or.inl placed)⟩
    · have ticked := c.ticked (q := ep.queues) (h := h) (sound c connected)
      obtain ⟨mid, received, sent⟩ := ticked.halves
      rw [same, sent.writes.rest, received.reads.rest]

end Endpoint

end LocalPipe
