import LocalPipe.Proofs.Ledger
import LocalPipe.Proofs.Quiescence

namespace LocalPipe

open Host

/-- How much of the send that a transport has outstanding was accepted already. -/
def Transport.acceptedAhead (t : Transport) : Nat :=
  (t.sending.map (·.sent)).getD 0

namespace Writer

variable {lane : Lane} {moved total : Nat} {answer : Except SendFailure Nat × Lane}

theorem Issues.moved_le (issues : Issues lane moved answer) (ok : answer.1 = .ok total) :
    moved ≤ total := by
  induction issues with
  | done =>
    cases ok
    exact Nat.le_refl _
  | next _ _ _ ih => exact Nat.le_trans (Nat.le_add_right _ _) (ih ok)
  | pending =>
    cases ok
    exact Nat.le_refl _
  | failed => cases ok

/-- An advance counts nothing, or more than what was accepted before of the send that
was outstanding. -/
theorem Run.counts_more (run : Run lane answer) (ok : answer.1 = .ok total) :
    total = 0 ∨ lane.transport.acceptedAhead < total := by
  cases run with
  | idle _ free _ =>
    have nothing : lane.transport.acceptedAhead = 0 := by rw [Transport.acceptedAhead, free]; rfl
    omega
  | pending =>
    cases ok
    exact Or.inl rfl
  | @complete op _ _ _ holds _ issues =>
    have whole := issues.moved_le ok
    have before : lane.transport.acceptedAhead = op.sent := by
      rw [Transport.acceptedAhead, holds.outstanding]
      rfl
    have unfinished := holds.unfinished
    exact Or.inr (by omega)
  | failed => cases ok

end Writer

namespace Connection

variable {c : Connection} {q : Queues} {h : Host}

theorem toSend_eq (sends : ∀ w, c.writer = some w → w.Sends c.transport.sending)
    (unwritten : c.writer = none → c.transport.sending = none) (q : Queues) :
    c.toSend q = (c.unsent q).length + c.transport.acceptedAhead := by
  rw [toSend, unsent, List.length_append, unaccepted, Transport.acceptedAhead]
  cases writing : c.writer with
  | none => simp [unwritten writing]
  | some w =>
    have pending := (sends w writing).pendingSize_eq
    simp only [Option.map_some, Option.getD_some]
    omega

theorem sendHalf_counts_more (sends : ∀ w, c.writer = some w → w.Sends c.transport.sending)
    {w : Nat} (ok : (c.sendHalf q h).written = .ok w) :
    w = 0 ∨ c.transport.acceptedAhead < w := by
  unfold sendHalf at ok
  split at ok
  · rename_i worker present
    exact (Writer.advance_run ⟨worker, q, c.transport, h⟩ (sends worker present)).counts_more ok
  · cases ok
    exact Or.inl rfl

/-- What the counts of a tick have to do with the bytes that its reads bring in and its
writes place. A send is counted as a whole, when it is finished. -/
structure Counted (c : Connection) (h : Host) (t : Tick) (brought placed : Bytes) : Prop where
  inbound : inbound c.transport.descriptor t.host.calls =
    inbound c.transport.descriptor h.calls ++ brought
  outbound : outbound c.transport.descriptor t.host.calls =
    outbound c.transport.descriptor h.calls ++ placed
  read : ∀ r, t.read = .ok r → r = brought.length
  written : ∀ w, t.written = .ok w →
    w + t.connection.transport.acceptedAhead = c.transport.acceptedAhead + placed.length ∧
      (w = 0 ∨ c.transport.acceptedAhead < w)

theorem tick_counted (sound : c.Sound) :
    ∃ brought placed, c.Counted h (c.tick q h) brought placed := by
  rw [tick_eq]
  dsimp only
  obtain ⟨queues, transport, writer, _⟩ := receiveHalf_frame (q := q) (h := h) sound
  obtain ⟨sends, unwritten⟩ := sends_receiveHalf (q := q) (h := h) sound
  have received := received_receiveHalf (q := q) (h := h) sound
  have counted := fun r ok => receiveHalf_counts (q := q) (h := h) (r := r) sound ok
  generalize c.receiveHalf q h = first at *
  obtain ⟨brought, input, grown⟩ := received.input
  have sent := sent_sendHalf (q := first.queues) (h := first.host) sends
  obtain ⟨placed, dropped, split, grown', kept⟩ := sent.output
  have descriptor : first.connection.transport.descriptor = c.transport.descriptor := by
    rw [transport]
  have ahead : first.connection.transport.acceptedAhead = c.transport.acceptedAhead := by
    rw [transport, Transport.acceptedAhead, Transport.acceptedAhead]
  refine ⟨brought, placed, ?_, ?_, fun r ok => ?_, fun w ok => ?_⟩
  · rw [sent.writes.inbound_eq, grown]
  · rw [← descriptor, grown', received.reads.outbound_eq]
  · have length := counted r ok
    rw [input, List.length_append] at length
    omega
  · obtain ⟨sends', unwritten'⟩ := sends_sendHalf sends unwritten ok
    have before := toSend_eq sends unwritten first.queues
    have after := toSend_eq sends' unwritten'
      (first.connection.sendHalf first.queues first.host).queues
    have counts := sendHalf_counts sends ok
    rw [kept w ok, List.append_nil] at split
    rw [split, List.length_append, ahead] at before
    refine ⟨by dsimp only; omega, ?_⟩
    rw [← ahead]
    exact sendHalf_counts_more sends ok

end Connection

namespace Endpoint

/-- What a service tells of the bytes that its reads brought in and that its writes
placed. What was received is counted exactly. What was sent is counted send by send,
when the last byte of each is accepted, so that the count is out by what was accepted
of an outstanding send before, and by what was accepted of the one that is outstanding
then. Movement is reported if bytes came in, a send was finished, or the endpoint was
closed. So it is kept back only if all that moved went into a send that is still
outstanding. -/
structure Reports (ep : Endpoint) (c : Connection) (t : Connection.Tick) (moved : Bool)
    (ep' : Endpoint) (brought placed : Bytes) : Prop where
  received : ∀ r, t.read = .ok r → r = brought.length
  sent : ∀ w, t.written = .ok w →
    w + t.connection.transport.acceptedAhead = c.transport.acceptedAhead + placed.length
  moved_iff : moved = true ↔
    brought ≠ [] ∨ ep'.bytesToSend < ep.bytesToSend ∨ ep'.connection = none
  truthful_iff : (moved = true ↔ brought ≠ [] ∨ placed ≠ [] ∨ ep'.connection = none) ↔
    ¬ (brought = [] ∧ placed ≠ [] ∧ ep'.connection ≠ none ∧ ep'.bytesToSend = ep.bytesToSend)

variable {ep ep' : Endpoint} {c : Connection} {h h' : Host} {waits waits' : WaitSet} {moved : Bool}

theorem service_reports (connected : ep.connection = some c) (sound : c.Sound)
    (run : ep.service waits h = .ok (moved, waits', ep') h') :
    ep.Reports c (c.tick ep.queues h) moved ep' (inbound c.transport.descriptor (h'.since h.calls))
      (outbound c.transport.descriptor (h'.since h.calls)) := by
  have ticked := c.ticked (q := ep.queues) (h := h) sound
  obtain ⟨brought, placed, counted⟩ := c.tick_counted (q := ep.queues) (h := h) sound
  have served := served_of_run connected sound run
  obtain ⟨mid, received, sent⟩ := ticked.halves
  obtain ⟨during, calls⟩ := received.reads.calls_suffix.trans sent.writes.calls_suffix
  -- what a service adds to the calls of its tick lets go of things and moves nothing
  have shown (quiet : (c.tick ep.queues h).host.Quiet h') :
      inbound c.transport.descriptor (h'.since h.calls) = brought ∧
        outbound c.transport.descriptor (h'.since h.calls) = placed := by
    obtain ⟨later, calls'⟩ := quiet.calls_suffix
    have all : h'.calls = (later ++ during) ++ h.calls := by
      rw [← calls', ← calls, List.append_assoc]
    have came := counted.inbound
    have went := counted.outbound
    rw [← quiet.inbound_eq, all, inbound_append] at came
    rw [← quiet.outbound_eq, all, outbound_append] at went
    rw [since_eq all]
    exact ⟨List.append_cancel_left came, List.append_cancel_left went⟩
  have before := bytesToSend_of_connected connected
  have rested := fun r w read written =>
    Connection.rested (q := ep.queues) (h := h) (r := r) (w := w) sound read written
  generalize c.tick ep.queues h = t at *
  generalize moves : (moved, waits', ep') = outcome at served
  cases served with
  | @kept r w read written =>
    cases moves
    obtain ⟨came, went⟩ := shown (.refl _)
    have length := counted.read r read
    obtain ⟨counts, more⟩ := counted.written w written
    have sent := (rested r w read written).sent
    have after : (ep.ticked t).bytesToSend = t.connection.toSend t.queues := bytesToSend_ticked ep t
    have some_in : 0 < r ↔ brought ≠ [] := by rw [length, List.length_pos_iff]
    have some_out : 0 < w → placed ≠ [] := fun positive => by
      rw [← List.length_pos_iff]
      omega
    have finished : 0 < w ↔ (ep.ticked t).bytesToSend < ep.bytesToSend := by omega
    have unfinished : (ep.ticked t).bytesToSend = ep.bytesToSend ↔ ¬ 0 < w := by omega
    have still : (ep.ticked t).connection ≠ none := nofun
    have reported : (decide (0 < r) || decide (0 < w)) = true ↔ 0 < r ∨ 0 < w := by simp
    rw [came, went]
    refine ⟨counted.read, fun w ok => (counted.written w ok).1, ?_, ?_⟩
    · rw [reported, some_in, finished]
      simp only [still, or_false]
    · rw [reported, some_in, unfinished]
      by_cases nothing_in : brought = []
      · by_cases positive : 0 < w
        · simp [nothing_in, positive, some_out positive]
        · simp [nothing_in, positive, still]
      · simp [nothing_in]
  | failed errors fails =>
    cases moves
    obtain ⟨came, went⟩ := shown ((ep.ticked _).releases_giveUp errors _).quiet
    have closed : ((ep.ticked t).giveUp errors t.host).1.connection = none := by
      rw [giveUp_fst]
    rw [came, went]
    exact ⟨counted.read, fun w ok => (counted.written w ok).1, by simp [closed], by simp [closed]⟩

end Endpoint

/-- Whatever was done with an endpoint and whatever its host answers, service returns and
reports the movement of bytes as described. -/
theorem EndpointReach.reports {config : PipeConfig} {ep : Endpoint}
    (reach : EndpointReach config ep) (waits : WaitSet) (h : Host) :
    ∃ moved waits' ep' h', ep.service waits h = .ok (moved, waits', ep') h' ∧
      (ep.connection = none → moved = false ∧ h' = h) ∧
      ∀ c, ep.connection = some c →
        ep.Reports c (c.tick ep.queues h) moved ep'
          (inbound c.transport.descriptor (h'.since h.calls))
          (outbound c.transport.descriptor (h'.since h.calls)) := by
  have sound := reach.orderly.sound
  obtain ⟨moved, waits', ep', h', run, _⟩ := ep.service_sound waits h sound
  refine ⟨moved, waits', ep', h', run, fun disconnected => ?_, fun c connected =>
    Endpoint.service_reports connected (sound c connected) run⟩
  rw [Endpoint.service_closed waits disconnected] at run
  cases run
  exact ⟨rfl, rfl⟩

/-- Two bytes of three fit at first, and the third goes out once the peer has made room.
Service reports it, and the tick counts all three. -/
theorem EndpointReach.reports_cramped : ∃ ep h c, EndpointReach {} ep ∧
    ep.connection = some c ∧ c.transport.acceptedAhead = 2 ∧
    (c.tick ep.queues h).written.toOption = some 3 ∧
    ∃ waits ep' h', ep.service {} h = .ok (true, waits, ep') h' ∧
      outbound c.transport.descriptor (h'.since h.calls) = [3] := by
  have served : Endpoint.servedCramped {} [.connect [115], .write [1, 2, 3], .service {}]
      (fun h => (h.act (.receive ⟨"peer", .b⟩ none)).2)
      (fun ep h _ ep' h' => ep.connection.map fun c =>
        ((ep.bytesToSend, ep'.bytesToSend), c.transport.acceptedAhead,
          (c.tick ep.queues h).written.toOption,
          outbound c.transport.descriptor (h'.since h.calls))) =
      some (some ((3, 0), 2, some 3, [3])) := by
    decide +kernel
  obtain ⟨ep, h, moved, waits, ep', h', reach, run, shown⟩ := Endpoint.of_servedCramped served
  obtain ⟨c, connected, shown⟩ := Option.map_eq_some_iff.mp shown
  obtain ⟨_, _, _, _, run', _, connects⟩ := EndpointReach.reports reach {} h
  cases run.symm.trans run'
  simp only [Prod.mk.injEq] at shown
  obtain ⟨⟨before, after⟩, ahead, written, sent⟩ := shown
  have finished : moved = true := (connects c connected).moved_iff.mpr
    (Or.inr (Or.inl (by rw [before, after]; decide)))
  subst finished
  exact ⟨ep, h, c, reach, connected, ahead, written, waits, ep', h', run, sent⟩

/-- The first two of three bytes go out, and service reports no movement. -/
theorem EndpointReach.not_always_reported : ¬ ∀ config ep c waits h moved waits' ep' h',
    EndpointReach config ep → ep.connection = some c →
      ep.service waits h = .ok (moved, waits', ep') h' →
        (moved = true ↔ inbound c.transport.descriptor (h'.since h.calls) ≠ [] ∨
          outbound c.transport.descriptor (h'.since h.calls) ≠ [] ∨ ep'.connection = none) := by
  have served : Endpoint.servedCramped {} [.connect [115], .write [1, 2, 3]] id
      (fun ep h moved _ h' => ep.connection.map fun c =>
        (moved, outbound c.transport.descriptor (h'.since h.calls))) =
      some (some (false, [1, 2])) := by
    decide +kernel
  obtain ⟨ep, h, moved, waits, ep', h', reach, run, shown⟩ := Endpoint.of_servedCramped served
  obtain ⟨c, connected, shown⟩ := Option.map_eq_some_iff.mp shown
  obtain ⟨rfl, sent⟩ := Prod.mk.inj shown
  intro reported
  have moves := (reported {} ep c {} h false waits ep' h' reach connected run).mpr
    (Or.inr (Or.inl (by rw [sent]; exact List.cons_ne_nil 1 [2])))
  cases moves

end LocalPipe
