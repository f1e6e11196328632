import LocalPipe.Proofs.Hangups
import LocalPipe.Proofs.RelayFlush

namespace LocalPipe

open Host

namespace Wiring

/-- What others may do while a relay runs: nobody else acts as its ends or makes
its links anew, and the far ends of its input and its output stay open. -/
structure Fair (w : Wiring) (action : PeerAction) : Prop where
  conn : Unshared w.conn.endId action
  input : Unshared w.input.endId action
  output : Unshared w.output.endId action
  inputStays : action ≠ .close w.input.endId.other
  outputStays : action ≠ .close w.output.endId.other

/-- The descriptors are on three different links. -/
structure Apart (w : Wiring) : Prop where
  input_conn : w.input.endId.link ≠ w.conn.endId.link
  output_conn : w.output.endId.link ≠ w.conn.endId.link
  output_input : w.output.endId.link ≠ w.input.endId.link

/-- Nothing disturbs a relay: its ends meet no faults, only the peer may hang up,
and no endpoint of it listens. -/
structure Calm (w : Wiring) (t : Trio) (h : Host) : Prop where
  conn : t.conn.connection ≠ none → h.Undisturbed w.conn.endId
  input : h.Undisturbed w.input.endId
  output : h.Undisturbed w.output.endId
  inputOpen : h.isOpen w.input.endId.other = true
  outputOpen : h.isOpen w.output.endId.other = true
  fair : h.Expects w.Fair
  connUnbound : t.conn.listener = none
  sourceUnbound : t.source.listener = none
  sinkUnbound : t.sink.listener = none
  sourceConnected : t.source.connection ≠ none
  sinkConnected : t.sink.connection ≠ none

theorem ne_of_link {p q : EndId} (apart : p.link ≠ q.link) : p ≠ q :=
  fun same => apart (congrArg EndId.link same)

variable {w : Wiring} {t t' : Trio} {h h' : Host} {earlier : List Call} {waits : WaitSet}
  {place : Nat} {moved : Bool}

theorem Calm.serves (calm : w.Calm t h) (apart : w.Apart) (carries : w.Carries earlier t h)
    (serves : t.Serves waits place h moved t' h') : w.Calm t' h' := by
  obtain ⟨conn, input, output, inputOpen, outputOpen, fair, connUnbound, sourceUnbound, sinkUnbound,
    sourceConnected, sinkConnected⟩ := calm
  cases serves with
  | conn run =>
    have spares := Endpoint.spares carries.conn connUnbound run
    have away {p : EndId} (other : p.link ≠ w.conn.endId.link) :=
      spares.survives p (Or.inl (ne_of_link other))
    refine ⟨fun opened => ?_, input.survives (away apart.input_conn),
      output.survives (away apart.output_conn), ?_, ?_,
      fair.of_subset (by rw [spares.appointments]; exact List.Subset.refl _), spares.listener,
      sourceUnbound, sinkUnbound, sourceConnected, sinkConnected⟩
    · refine (conn fun closed => ?_).survives (spares.survives _ (Or.inr opened))
      obtain ⟨rfl, _⟩ := (Endpoint.serviced carries.conn run).stays closed
      exact opened closed
    · exact (away (p := w.input.endId.other) apart.input_conn).isOpen_eq.trans inputOpen
    · exact (away (p := w.output.endId.other) apart.output_conn).isOpen_eq.trans outputOpen
  | source run =>
    have spares := Endpoint.spares carries.source sourceUnbound run
    have stays := Endpoint.service_connected carries.source sourceConnected input inputOpen run
    have all (p : EndId) := spares.survives p (Or.inr stays)
    exact ⟨fun opened => (conn opened).survives (all _), input.survives (all _),
      output.survives (all _), (all _).isOpen_eq.trans inputOpen,
      (all _).isOpen_eq.trans outputOpen,
      fair.of_subset (by rw [spares.appointments]; exact List.Subset.refl _), connUnbound,
      spares.listener, sinkUnbound, stays, sinkConnected⟩
  | sink run =>
    have spares := Endpoint.spares carries.sink sinkUnbound run
    have stays := Endpoint.service_connected carries.sink sinkConnected output outputOpen run
    have all (p : EndId) := spares.survives p (Or.inr stays)
    exact ⟨fun opened => (conn opened).survives (all _), input.survives (all _),
      output.survives (all _), (all _).isOpen_eq.trans inputOpen,
      (all _).isOpen_eq.trans outputOpen,
      fair.of_subset (by rw [spares.appointments]; exact List.Subset.refl _), connUnbound,
      sourceUnbound, spares.listener, sourceConnected, stays⟩

theorem Calm.forwarded (calm : w.Calm t h) (limit : Nat) (events : List LogEvent) :
    w.Calm (t.forwarded limit) { h with events } :=
  ⟨calm.conn, calm.input, calm.output, calm.inputOpen, calm.outputOpen, calm.fair,
    calm.connUnbound, calm.sourceUnbound, calm.sinkUnbound, calm.sourceConnected,
    calm.sinkConnected⟩

theorem Calm.waited (calm : w.Calm t h) (waits : h.Waits h') : w.Calm t h' := by
  have conn := waits.survives (calm.fair.mono fun _ fair => fair.conn)
  have input := waits.survives (calm.fair.mono fun _ fair => fair.input)
  have output := waits.survives (calm.fair.mono fun _ fair => fair.output)
  have inputOpen := waits.isOpen_eq (p := w.input.endId.other)
    (calm.fair.mono fun _ fair => ⟨fair.inputStays, fair.input.2⟩)
  have outputOpen := waits.isOpen_eq (p := w.output.endId.other)
    (calm.fair.mono fun _ fair => ⟨fair.outputStays, fair.output.2⟩)
  exact ⟨fun opened => (calm.conn opened).survives conn, calm.input.survives input,
    calm.output.survives output, inputOpen.trans calm.inputOpen, outputOpen.trans calm.outputOpen,
    calm.fair.of_subset waits.appointments, calm.connUnbound, calm.sourceUnbound,
    calm.sinkUnbound, calm.sourceConnected, calm.sinkConnected⟩

end Wiring

namespace RelayReach

variable {config : PipeConfig} {first t : Trio} {h₀ h : Host} {place : Nat} {exiting : Bool}
  {w : Wiring} {earlier : List Call}

/-- Where nothing disturbs a relay at its start, nothing ever does. -/
theorem calm (reach : RelayReach config first h₀ place exiting t h) (apart : w.Apart)
    (start : w.Carries earlier first h₀) (calm : w.Calm first h₀) : w.Calm t h := by
  induction reach with
  | start => exact calm
  | rest before serves ih => exact ih.serves apart (before.carries start) serves
  | move events before serves ih =>
    exact (ih.serves apart (before.carries start) serves).forwarded _ _
  | turn _ waits ih => exact ih.waited waits

/-- The tick in which a relay's connection was given up, from a state that the
relay came to. -/
inductive GaveUp (config : PipeConfig) (first : Trio) (h₀ : Host) : Connection.Tick → Prop
  | tick {exiting t h c} : RelayReach config first h₀ 0 exiting t h → t.conn.connection = some c →
      c.HungUp t.conn.queues (c.tick t.conn.queues h) →
      GaveUp config first h₀ (c.tick t.conn.queues h)

/-- What the peer has sent is accounted for: it has come in over the connection,
or waits there to be read, or was left unread when the connection was given up.
Nothing was left unread if nothing has come in at the input. -/
inductive Accounted (config : PipeConfig) (first : Trio) (h₀ : Host) (w : Wiring) (before : Bytes)
    (earlier : List Call) (t : Trio) (h : Host) : Prop
  | connected : t.conn.connection ≠ none →
      before ++ posted w.conn.endId.other (h.since earlier) =
        inbound w.conn (h.since earlier) ++ h.buffer w.conn.endId →
      Accounted config first h₀ w before earlier t h
  | hungUp {tick} : t.conn.connection = none → h.isOpen w.conn.endId.other = false →
      GaveUp config first h₀ tick →
      before ++ posted w.conn.endId.other (h.since earlier) =
        inbound w.conn (h.since earlier) ++ tick.host.buffer w.conn.endId →
      (tick.host.buffer w.conn.endId ≠ [] → inbound w.input (h.since earlier) ≠ []) →
      Accounted config first h₀ w before earlier t h

variable {t' : Trio} {h' : Host} {before : Bytes} {waits : WaitSet} {moved : Bool}

/-- What has come in at the input is still there later. -/
theorem fed_mono {d : Descriptor} (suffix : earlier <:+ h.calls) (more : h.calls <:+ h'.calls)
    (some_data : inbound d (h.since earlier) ≠ []) : inbound d (h'.since earlier) ≠ [] := by
  intro nothing
  have grown := inbound_mono d (since_suffix suffix more)
  rw [nothing] at grown
  exact some_data (List.prefix_nil.mp grown)

/-- A service of the source or the sink changes nothing of this. -/
theorem Accounted.aside {d : Descriptor} {ep ep' : Endpoint}
    (accounted : Accounted config first h₀ w before earlier t h) (suffix : earlier <:+ h.calls)
    (same : t'.conn = t.conn) (away : d.endId.link ≠ w.conn.endId.link)
    (serviced : ep.Serviced d h ep' h') (spares : Endpoint.Spares d h ep' h') :
    Accounted config first h₀ w before earlier t' h' := by
  have more := serviced.suffix
  have other : w.conn ≠ d := by
    rintro rfl
    exact away rfl
  have received := inbound_since_same suffix more (serviced.others w.conn other).1
  have sent := posted_since_same suffix more (spares.posted_eq w.conn.endId.other)
  cases accounted with
  | connected opened whole =>
    refine .connected (by rwa [same]) ?_
    rw [received, sent, spares.buffer_eq _ (Ne.symm away)]
    exact whole
  | hungUp closed far gaveUp whole fed =>
    refine .hungUp (by rwa [same]) ?_ gaveUp ?_ fun unread => fed_mono suffix more (fed unread)
    · have survives := spares.survives w.conn.endId.other
        (Or.inl (Wiring.ne_of_link (Ne.symm away)))
      exact survives.isOpen_eq.trans far
    · rw [received, sent]
      exact whole

/-- A service of the connection either goes on reading, or gives it up. -/
theorem Accounted.served {ep' : Endpoint} {waits' : WaitSet}
    (accounted : Accounted config first h₀ w before earlier t h)
    (reach : RelayReach config first h₀ 0 exiting t h) (calm : w.Calm t h)
    (carries : w.Carries earlier t h) (run : t.conn.service waits h = .ok (moved, waits', ep') h') :
    Accounted config first h₀ w before earlier { t with conn := ep' } h' := by
  have serviced := Endpoint.serviced carries.conn run
  have spares := Endpoint.spares carries.conn calm.connUnbound run
  have suffix := carries.suffix
  have more := serviced.suffix
  have sent := posted_since_same suffix more (spares.posted_eq w.conn.endId.other)
  cases accounted with
  | hungUp closed far gaveUp whole fed =>
    obtain ⟨rfl, rfl⟩ := serviced.stays closed
    exact .hungUp closed far gaveUp whole fed
  | connected opened whole =>
    obtain ⟨c, connected⟩ := Option.ne_none_iff_exists'.mp opened
    obtain ⟨⟨data, grown, near⟩, stays, hangsUp⟩ :=
      Endpoint.service_unread carries.conn connected run
    have received := inbound_since suffix more grown
    have all : before ++ posted w.conn.endId.other (h'.since earlier) =
        inbound w.conn (h'.since earlier) ++
          (c.tick t.conn.queues h).host.buffer w.conn.endId := by
      rw [sent, whole, near, received, List.append_assoc]
    by_cases closed : ep'.connection = none
    · have hungUp := hangsUp closed (calm.conn opened)
      obtain ⟨sound, descriptor⟩ := carries.conn c connected
      have ticked := c.ticked (q := t.conn.queues) (h := h) sound
      have far : h'.isOpen w.conn.endId.other = false := by
        have shut := hungUp.far
        rw [descriptor, (ticked.survives _).isOpen_eq] at shut
        exact (spares.survives _ (Or.inl (EndId.other_ne _))).isOpen_eq.trans shut
      refine .hungUp closed far (.tick reach connected hungUp) all fun unread => ?_
      refine fed_mono suffix more fun nothing => ?_
      obtain ⟨_, unsent, _⟩ := hungUp.refused (by rwa [descriptor])
      obtain ⟨passed, taken, _, placed⟩ := carries.upward.carried
      rw [nothing, placed opened] at taken
      have none_unsent : t.conn.unsent = [] := by
        have := (List.append_eq_nil_iff.mp taken.symm).1
        exact (List.append_eq_nil_iff.mp this).2
      have same : t.conn.unsent = c.unsent t.conn.queues := by
        simp [Endpoint.unsent, Endpoint.unaccepted, connected, Connection.unsent]
      exact unsent (same.symm.trans none_unsent)
    · refine .connected closed ?_
      rw [stays closed] at all ⊢
      exact all

theorem Accounted.serves (accounted : Accounted config first h₀ w before earlier t h)
    (reach : RelayReach config first h₀ place exiting t h) (apart : w.Apart) (calm : w.Calm t h)
    (carries : w.Carries earlier t h) (serves : t.Serves waits place h moved t' h') :
    Accounted config first h₀ w before earlier t' h' := by
  cases serves with
  | conn run => exact accounted.served reach calm carries run
  | source run =>
    exact accounted.aside carries.suffix rfl apart.input_conn (Endpoint.serviced carries.source run)
      (Endpoint.spares carries.source calm.sourceUnbound run)
  | sink run =>
    exact accounted.aside carries.suffix rfl apart.output_conn (Endpoint.serviced carries.sink run)
      (Endpoint.spares carries.sink calm.sinkUnbound run)

theorem Accounted.forwarded (accounted : Accounted config first h₀ w before earlier t h)
    (limit : Nat) (events : List LogEvent) :
    Accounted config first h₀ w before earlier (t.forwarded limit) { h with events } := by
  cases accounted with
  | connected opened whole => exact .connected opened whole
  | hungUp closed far gaveUp whole fed => exact .hungUp closed far gaveUp whole fed

theorem Accounted.waited (accounted : Accounted config first h₀ w before earlier t h)
    (calm : w.Calm t h) (suffix : earlier <:+ h.calls) (waits : h.Waits h') :
    Accounted config first h₀ w before earlier t h' := by
  have more := waits.quiet.calls_suffix
  have received := inbound_since_same suffix more (waits.quiet.inbound_eq w.conn)
  have unshared := calm.fair.mono fun _ fair => fair.conn
  cases accounted with
  | connected opened whole =>
    obtain ⟨e, present, _⟩ := calm.conn opened
    obtain ⟨data, grown, sent⟩ := waits.buffer_eq unshared (by simp [present])
    have sent := posted_since suffix more sent
    refine .connected opened ?_
    rw [sent, received, grown, ← List.append_assoc, whole, List.append_assoc]
  | hungUp closed far gaveUp whole fed =>
    obtain ⟨far', sent⟩ := waits.closed (p := w.conn.endId.other)
      (unshared.mono fun _ fair => fair.2) far
    have sent := posted_since_same suffix more sent
    refine .hungUp closed far' gaveUp ?_ fun unread => fed_mono suffix more (fed unread)
    rw [sent, received]
    exact whole

/-- At every state that a relay reaches, what its peer has sent is accounted
for. -/
theorem accounted (reach : RelayReach config first h₀ place exiting t h) (apart : w.Apart)
    (start : w.Carries earlier first h₀) (calm : w.Calm first h₀)
    (accounted : Accounted config first h₀ w before earlier first h₀) :
    Accounted config first h₀ w before earlier t h := by
  induction reach with
  | start => exact accounted
  | rest before serves ih =>
    exact ih.serves before apart (before.calm apart start calm) (before.carries start) serves
  | move events before serves ih =>
    exact (ih.serves before apart (before.calm apart start calm) (before.carries start)
      serves).forwarded _ _
  | turn before waits ih =>
    exact ih.waited (before.calm apart start calm) (before.carries start).suffix waits

end RelayReach

/-- How a relay finds its surroundings: three links, whose ends at the relay meet
no faults, and whose far ends at the input and the output stay open. The
connection's end is in non-blocking mode already. -/
structure Wiring.Undisturbed (w : Wiring) (h : Host) : Prop where
  apart : w.Apart
  conn : h.Undisturbed w.conn.endId
  input : ∃ e, h.linkEnd? w.input.endId = some e ∧ ∀ d, e.faults d = []
  output : ∃ e, h.linkEnd? w.output.endId = some e ∧ ∀ d, e.faults d = []
  inputOpen : h.isOpen w.input.endId.other = true
  outputOpen : h.isOpen w.output.endId.other = true
  fair : h.Expects w.Fair

namespace Relay

variable {w : Wiring} {config : PipeConfig} {conn source sink : Endpoint} {h h₁ h₂ h' : Host}
  {fuel : Nat}

theorem undisturbed_of_adopted {d : Descriptor} {e : LinkEnd} (before : h.linkEnd? d.endId = some e)
    (faultless : ∀ way, e.faults way = [])
    (mode : h₁.linkEnd? d.endId = (h.linkEnd? d.endId).map fun e => { e with nonblocking := true }) :
    h₁.Undisturbed d.endId := by
  rw [before, Option.map_some] at mode
  exact ⟨_, mode, rfl, fun way => by have none := faultless way; cases way <;> exact none⟩

/-- What a relay takes over disturbs nothing. -/
theorem Began.calm (began : Began config w h source sink h₁ h₂) (unbound : conn.listener = none)
    (undisturbed : w.Undisturbed h) : w.Calm ⟨conn, source, sink⟩ h₂ := by
  obtain ⟨apart, connEnd, ⟨e, input, inputFaults⟩, ⟨e', output, outputFaults⟩, inputOpen, outputOpen,
    fair⟩ := undisturbed
  have first {p : EndId} (away : p ≠ w.input.endId) := began.inputReleased.ends p away
  have second {p : EndId} (away : p ≠ w.output.endId) := began.outputReleased.ends p away
  have both {p : EndId} (away : p ≠ w.input.endId) (away' : p ≠ w.output.endId) :
      h₂.linkEnd? p = h.linkEnd? p := (second away').trans (first away)
  have inputFine := undisturbed_of_adopted input inputFaults began.inputMode
  have output' : h₁.linkEnd? w.output.endId = some e' :=
    (first (Wiring.ne_of_link apart.output_input)).trans output
  obtain ⟨c, connected, _⟩ := began.freshSource.connected
  obtain ⟨c', connected', _⟩ := began.freshSink.connected
  refine ⟨fun _ => connEnd.survives (.of_eq (both ?_ ?_)), inputFine.survives (.of_eq (second ?_)),
    undisturbed_of_adopted output' outputFaults began.outputMode, ?_, ?_,
    fair.of_subset ?_, unbound, began.sourceUnbound, began.sinkUnbound, by simp [connected],
    by simp [connected']⟩
  · exact Wiring.ne_of_link (Ne.symm apart.input_conn)
  · exact Wiring.ne_of_link (Ne.symm apart.output_conn)
  · exact Wiring.ne_of_link (Ne.symm apart.output_input)
  · have away : w.input.endId.other ≠ w.output.endId :=
      Wiring.ne_of_link (Ne.symm apart.output_input)
    exact (isOpen_congr (both (EndId.other_ne _) away)).trans inputOpen
  · have away : w.output.endId.other ≠ w.input.endId := Wiring.ne_of_link apart.output_input
    exact (isOpen_congr (both away (EndId.other_ne _))).trans outputOpen
  · rw [began.outputReleased.appointments, began.inputReleased.appointments]
    exact List.Subset.refl _

/-- When a relay begins, all that the peer has sent waits to be read. -/
theorem Began.accounted (began : Began config w h source sink h₁ h₂) (fresh : conn.FreshOn w.conn)
    (apart : w.Apart) :
    RelayReach.Accounted config ⟨conn, source, sink⟩ h₂ w (h.buffer w.conn.endId) h.calls
      ⟨conn, source, sink⟩ h₂ := by
  have calls := began.inputReleased.calls.trans began.outputReleased.calls
  have more := calls.quiet.calls_suffix
  have none_sent := posted_since_same List.suffix_rfl more (calls.posted_eq w.conn.endId.other)
  have none_read := inbound_since_same List.suffix_rfl more (calls.quiet.inbound_eq w.conn)
  have nothing : h.since h.calls = [] := since_eq (List.nil_append h.calls).symm
  have same : h₂.buffer w.conn.endId = h.buffer w.conn.endId := buffer_congr
    ((began.outputReleased.ends _ (Wiring.ne_of_link (Ne.symm apart.output_conn))).trans
      (began.inputReleased.ends _ (Wiring.ne_of_link (Ne.symm apart.input_conn))))
  obtain ⟨c, connected, _⟩ := fresh.connected
  refine .connected (by simp [connected]) ?_
  rw [none_sent, none_read, nothing, same]
  simp

/-- Exactly what a relay's peer has sent is placed on the output when the relay
returns without an error, but for what was left unread when its connection was
given up. Something is left unread only if the input of the connection has no
room for it, and something that came in from the relay's own input could not be
sent any more. -/
theorem runDescriptors_delivers (fresh : conn.FreshOn w.conn) (unbound : conn.listener = none)
    (undisturbed : w.Undisturbed h)
    (run : runDescriptors config fuel conn w.input w.output h = .ok (some (.ok ())) h') :
    ∃ source sink h₁ h₂ tick,
      (Endpoint.ofConfig config).adopt w.input .read "stdin" h = .ok (.ok (), source) h₁ ∧
      (Endpoint.ofConfig config).adopt w.output .write "stdout" h₁ = .ok (.ok (), sink) h₂ ∧
      RelayReach.GaveUp config ⟨conn, source, sink⟩ h₂ tick ∧
      h.buffer w.conn.endId ++ posted w.conn.endId.other (h'.since h.calls) =
        outbound w.output (h'.since h.calls) ++ tick.host.buffer w.conn.endId ∧
      (outbound w.output (h'.since h.calls) =
          h.buffer w.conn.endId ++ posted w.conn.endId.other (h'.since h.calls) ↔
        tick.host.buffer w.conn.endId = []) ∧
      (tick.host.buffer w.conn.endId ≠ [] → inbound w.input (h'.since h.calls) ≠ []) := by
  rcases runDescriptors_begins config fuel conn w h with
    ⟨e, h₁, failed, _⟩ | ⟨source, sink, h₁, h₂, began, loops⟩
  · rw [failed] at run
    cases run
  · rw [loops] at run
    obtain ⟨t, atExit, reach, _, rfl⟩ := runLoop_finished (began.sound fresh) run
    have start := began.carries fresh
    have carries := reach.carries start
    have apart := undisturbed.apart
    have calm := reach.calm apart start (began.calm unbound undisturbed)
    have closes := letsGo_finish (t.toLoop true) atExit
    have more := closes.quiet.calls_suffix
    have sent := posted_since_same carries.suffix more (closes.posted_eq w.conn.endId.other)
    have received := inbound_since_same carries.suffix more (closes.quiet.inbound_eq w.conn)
    -- the source and the sink never close, so that it is the connection that has
    have ended : t.conn.queues.input = [] ∧ t.sink.unsent = [] ∧ t.conn.connection = none := by
      rcases (reach.settled start began.fed rfl).2 with
        closed | ⟨empty, sunk, closed | ⟨closed, _⟩⟩
      · exact absurd closed calm.sinkConnected
      · exact ⟨empty, sunk, closed⟩
      · exact absurd closed calm.sourceConnected
    obtain ⟨empty, sunk, disconnected⟩ := ended
    have placed := (carries.quiet closes.quiet).sunk calm.sinkConnected empty sunk
    cases reach.accounted apart start (began.calm unbound undisturbed)
      (began.accounted fresh apart) with
    | connected opened _ => exact absurd disconnected opened
    | @hungUp tick _ _ gaveUp whole fed =>
      have all : h.buffer w.conn.endId ++ posted w.conn.endId.other
          (((t.toLoop true).close (atExit.log .relayFinished)).since h.calls) =
          outbound w.output (((t.toLoop true).close (atExit.log .relayFinished)).since h.calls) ++
            tick.host.buffer w.conn.endId := by
        rw [sent, whole, placed, received]
      refine ⟨source, sink, h₁, h₂, tick, began.input, began.output, gaveUp, all, ?_,
        fun unread => RelayReach.fed_mono carries.suffix more (fed unread)⟩
      rw [all]
      exact List.self_eq_append_right

theorem undisturbed_afterPeer (sent typed : Bytes) :
    afterPeerWiring.Undisturbed (afterPeer sent typed) := by
  refine ⟨⟨by decide, by decide, by decide⟩, ⟨_, rfl, rfl, fun d => by cases d <;> rfl⟩,
    ⟨_, rfl, fun d => by cases d <;> rfl⟩, ⟨_, rfl, fun d => by cases d <;> rfl⟩, rfl, rfl, ?_⟩
  intro a member
  cases member

/-- With nothing typed at the input, all that the peer has sent comes out, even
if the relay takes in a single byte at a time. -/
theorem runDescriptors_delivers_untyped : ∃ h' source sink h₂ tick,
    runDescriptors { readBufferSize := 1 } 30 (afterPeerConn { readBufferSize := 1 } [1, 2, 3] [])
      afterPeerWiring.input afterPeerWiring.output (afterPeer [1, 2, 3] []) =
        .ok (some (.ok ())) h' ∧
    RelayReach.GaveUp { readBufferSize := 1 }
      ⟨afterPeerConn { readBufferSize := 1 } [1, 2, 3] [], source, sink⟩ h₂ tick ∧
    tick.host.buffer afterPeerWiring.conn.endId = [] := by
  have returns : afterPeerTraffic { readBufferSize := 1 } [1, 2, 3] [] =
      some ([1, 2, 3], [1, 2, 3]) := by
    decide +kernel
  obtain ⟨h', run, all, placed⟩ := run_of_afterPeerTraffic returns
  obtain ⟨source, sink, _, h₂, tick, _, _, gaveUp, _, whole_iff, _⟩ :=
    runDescriptors_delivers (freshOn_afterPeerConn { readBufferSize := 1 } [1, 2, 3] []) rfl
      (undisturbed_afterPeer [1, 2, 3] []) run
  exact ⟨h', source, sink, h₂, tick, run, gaveUp, whole_iff.mp (placed.trans all.symm)⟩

/-- With one byte typed, a relay may return without an error although not all
that the peer has sent is on its output. -/
theorem not_always_delivered : ¬ ∀ (w : Wiring) (config : PipeConfig) (fuel : Nat) (conn : Endpoint)
    (h h' : Host), 1 ≤ config.readBufferSize → conn.FreshOn w.conn → conn.listener = none →
      w.Undisturbed h →
      runDescriptors config fuel conn w.input w.output h = .ok (some (.ok ())) h' →
      outbound w.output (h'.since h.calls) =
        h.buffer w.conn.endId ++ posted w.conn.endId.other (h'.since h.calls) := by
  intro always
  have returns : afterPeerTraffic { readBufferSize := 1 } [1, 2, 3] [120] =
      some ([1, 2, 3], [1, 2]) := by
    decide +kernel
  obtain ⟨h', run, all, placed⟩ := run_of_afterPeerTraffic returns
  have delivered := always _ _ _ _ _ _ (by decide) (freshOn_afterPeerConn _ [1, 2, 3] [120]) rfl
    (undisturbed_afterPeer [1, 2, 3] [120]) run
  have same : [1, 2] = ([1, 2, 3] : Bytes) := placed.symm.trans (delivered.trans all)
  cases same

end Relay

end LocalPipe
